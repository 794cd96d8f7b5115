import IssueFlow.Database.Faults
import IssueFlow.Semantics.Pool

/-!
# Transactions over the pool

`DatabaseService.transaction` statement by statement: a client of the pool,
`BEGIN`, the callback, `COMMIT` or `ROLLBACK`, and the release of the client.
The INSERT of the mentions is sent as a text with numbered placeholders. What
the whole comes to is `transaction`, the keys aside that a transaction draws
and does not use.

## Main definitions

* `CommentsRepository.placeholders`, `CommentsRepository.bindValues` — the text of the INSERT
* `clientEngine` — the server as the statements of a transaction see it
* `DatabaseService.transaction`, `DatabaseService.outcome` — a transaction over the pool

## Main results

* `CommentsRepository.bindValues_placeholders` — the rows the text stands for
* `DatabaseService.outcome_atomic` — a transaction takes effect as a whole or not at all
* `DatabaseService.outcome_faultless` — without faults it ends as the whole does
* `DatabaseService.released_once` — the client is given back
-/

namespace IssueFlow

open Store Semantics

/-! ### The INSERT of the mentions -/

namespace CommentsRepository

/-- The row `($1, $${i + 2})` for the mention with index `i`. -/
def placeholders (mentionedUserIds : List ℕ) : List (ℕ × ℕ) :=
  mentionedUserIds.mapIdx fun i _ => (1, i + 2)

/-- `[comment.id, ...input.mentionedUserIds]` -/
def mentionParams (commentId : ℕ) (mentionedUserIds : List ℕ) : List Param :=
  .number commentId :: mentionedUserIds.map .number

/-- The key a placeholder is bound to. -/
def boundKey (params : List Param) (index : ℕ) : Except PgError ℕ :=
  match Clause.lookup params index with
  | .ok (.number value) => .ok value
  | .ok .null => .error .notNullViolation
  | .ok (.text _) => .error .invalidTextRepresentation
  | .error error => .error error

/-- The rows of a `VALUES` list under its parameters. -/
def bindValues (params : List Param) : List (ℕ × ℕ) → Except PgError (List (ℕ × ℕ))
  | [] => .ok []
  | (comment, user) :: values => do
      let commentId ← boundKey params comment
      let userId ← boundKey params user
      let rows ← bindValues params values
      return (commentId, userId) :: rows

/-- `INSERT INTO comment_mentions` of some rows. -/
def insertValues (values : List (ℕ × ℕ)) (db : Db) : Except PgError Unit × Db :=
  if ¬ values.Nodup ∨ ∃ row ∈ db.commentMentions, (row.commentId, row.mentionedUserId) ∈ values then
    (.error .uniqueViolation, db)
  else if values.all fun value =>
      (db.comments.get? value.1).isSome && (db.users.get? value.2).isSome then
    (.ok (), { db with
      commentMentions := db.commentMentions ++
        values.map fun value => ⟨value.1, value.2, db.now⟩ })
  else (.error .foreignKeyViolation, db)

theorem boundKey_one (commentId : ℕ) (mentionedUserIds : List ℕ) :
    boundKey (mentionParams commentId mentionedUserIds) 1 = .ok commentId := rfl

/-- The placeholder after those of the ids before. -/
theorem boundKey_append (commentId : ℕ) (before : List ℕ) (id : ℕ) (after : List ℕ) :
    boundKey (mentionParams commentId (before ++ id :: after)) (before.length + 2) = .ok id := by
  have bound : Clause.lookup (mentionParams commentId (before ++ id :: after)) (before.length + 2) =
      .ok (.number id) := by
    simp [Clause.lookup, mentionParams]
  rw [boundKey, bound]

/-- **The text stands for one row per mentioned user**, each with the comment. -/
theorem bindValues_placeholders (commentId : ℕ) (mentionedUserIds : List ℕ) :
    bindValues (mentionParams commentId mentionedUserIds) (placeholders mentionedUserIds) =
      .ok (mentionedUserIds.map fun id => (commentId, id)) := by
  -- The ids whose rows are bound, behind those that were bound already.
  suffices remaining : ∀ before after : List ℕ, mentionedUserIds = before ++ after →
      bindValues (mentionParams commentId mentionedUserIds)
        (after.mapIdx fun i _ => (1, i + before.length + 2)) =
          .ok (after.map fun id => (commentId, id)) from
    remaining [] mentionedUserIds rfl
  intro before after
  induction after generalizing before with
  | nil =>
      intro _
      rfl
  | cons id after ih =>
      rintro rfl
      have next := ih (before ++ [id]) (by rw [List.append_assoc, List.singleton_append])
      have shifted : (fun (i : ℕ) (_ : ℕ) => (1, i + (before ++ [id]).length + 2)) =
          fun (i : ℕ) (_ : ℕ) => (1, i + 1 + before.length + 2) := by
        funext i _
        simp only [List.length_append, List.length_singleton, Prod.mk.injEq, true_and]
        omega
      rw [shifted] at next
      rw [List.mapIdx_cons, bindValues, boundKey_one, Nat.zero_add, boundKey_append, next]
      rfl

end CommentsRepository

/-! ### The server -/

namespace ClientStatement

/-- Execute a statement as it is sent. -/
def execSent : (statement : ClientStatement) → Db → statement.Ans × Db
  | .insertMentions commentId mentionedUserIds, db =>
      match CommentsRepository.bindValues
          (CommentsRepository.mentionParams commentId mentionedUserIds)
          (CommentsRepository.placeholders mentionedUserIds) with
      | .ok values => CommentsRepository.insertValues values db
      | .error error => (.error error, db)
  | statement, db => statement.exec db

/-- An INSERT of mentions has a row; the others have no such list. -/
def Sendable : ClientStatement → Prop
  | insertMentions _ mentionedUserIds => mentionedUserIds ≠ []
  | _ => True

/-- The INSERT of the rows is the INSERT of the mentions of one comment. -/
theorem insertValues_eq {mentionedUserIds : List ℕ} (some : mentionedUserIds ≠ []) (commentId : ℕ)
    (db : Db) :
    CommentsRepository.insertValues (mentionedUserIds.map fun id => (commentId, id)) db =
      (insertMentions commentId mentionedUserIds).exec db := by
  have distinct : (mentionedUserIds.map fun id => (commentId, id)).Nodup ↔
      mentionedUserIds.Nodup :=
    List.nodup_map_iff fun first second same => (Prod.mk.inj same).2
  have listed (row : MentionRow) :
      (row.commentId, row.mentionedUserId) ∈ mentionedUserIds.map (fun id => (commentId, id)) ↔
        row.commentId = commentId ∧ row.mentionedUserId ∈ mentionedUserIds := by
    simp [eq_comm, and_comm]
  have referred : ((mentionedUserIds.map fun id => (commentId, id)).all fun value =>
      (db.comments.get? value.1).isSome && (db.users.get? value.2).isSome) =
      ((db.comments.get? commentId).isSome &&
        mentionedUserIds.all fun id => (db.users.get? id).isSome) := by
    obtain ⟨first, others, rfl⟩ := List.exists_cons_of_ne_nil some
    simp only [List.all_map, Function.comp_def]
    generalize (db.comments.get? commentId).isSome = stored
    cases stored
    · rw [List.all_cons, Bool.false_and, Bool.false_and, Bool.false_and]
    · simp only [Bool.true_and]
  simp only [CommentsRepository.insertValues, exec, distinct, listed, referred, List.map_map,
    Function.comp_def]

/-- A statement does what its text says. -/
theorem execSent_eq {statement : ClientStatement} (sendable : statement.Sendable) (db : Db) :
    statement.execSent db = statement.exec db := by
  cases statement with
  | insertMentions commentId mentionedUserIds =>
      rw [execSent, CommentsRepository.bindValues_placeholders]
      exact insertValues_eq sendable commentId db
  | _ => rfl

end ClientStatement

/-- The server of a client. An error leaves nothing behind. -/
def clientEngine : Engine ClientStatement ClientStatement.Rows Db PgError where
  exec statement db :=
    match statement.execSent db with
    | (.ok rows, after) => .ok (rows, after)
    | (.error error, _) => .error error
  blockAborted := .inFailedSqlTransaction
  notConnected := .connectionFailure

namespace CommentsRepository

theorem writeMentions_sendable (commentId : ℕ) (mentionedUserIds : List ℕ) :
    (writeMentions commentId mentionedUserIds).Only ClientStatement.Sendable := by
  unfold writeMentions
  split_ifs with some
  · exact ⟨List.ne_nil_of_length_pos some, fun answer => by trivial⟩
  · trivial

theorem createWithMentions_sendable (input : CommentInput)
    (onCommitting : CommentRow → AuditInsert) :
    (createWithMentions input onCommitting).Only ClientStatement.Sendable := by
  unfold createWithMentions
  refine Program.Only.bind ⟨trivial, fun _ => trivial⟩ fun comment => ?_
  refine (writeMentions_sendable _ _).bind fun _ => ?_
  exact Program.Only.bind ⟨trivial, fun _ => trivial⟩ fun _ => trivial

theorem updateContentAndMentions_sendable (id : ℕ) (expectedVersion : Option ℕ) (content : String)
    (mentionedUserIds : List ℕ) (onCommitting : CommentRow → AuditInsert) :
    (updateContentAndMentions id expectedVersion content mentionedUserIds onCommitting).Only
      ClientStatement.Sendable := by
  unfold updateContentAndMentions
  refine Program.Only.bind ⟨trivial, fun _ => trivial⟩ fun found => ?_
  cases found with
  | none => trivial
  | some updated =>
      refine Program.Only.bind ⟨trivial, fun _ => trivial⟩ fun _ => ?_
      refine (writeMentions_sendable _ _).bind fun _ => ?_
      exact Program.Only.bind ⟨trivial, fun _ => trivial⟩ fun _ => trivial

end CommentsRepository

/-! ### Transactions -/

namespace DatabaseService

variable {α : Type}

/-- `transaction(fn)` -/
def transaction (fn : Transaction α) : Pooled ClientStatement ClientStatement.Rows PgError α :=
  withClient (inTransaction (inSession fn))

/-- How a transaction on an idle client ends, and what it leaves behind. -/
def outcome (plan : ℕ → Option (Fault PgError)) (fn : Transaction α) (db : Db) :
    Except PgError α × Db :=
  let (result, session) := (transaction fn).run (Pool.exec clientEngine plan) (Session.fresh db)
  (result, session.committed)

/-- What is sent to the pool. -/
def events (plan : ℕ → Option (Fault PgError)) (fn : Transaction α) (db : Db) :
    List (Event (PoolOp ClientStatement) (Session Db)) :=
  (transaction fn).events (Pool.exec clientEngine plan) (Session.fresh db)

variable {plan : ℕ → Option (Fault PgError)} {fn : Transaction α} {db after : Db}

/-- A body on the server ends as it does on the database, and when it returns
in the same state. -/
theorem run_alone (strict : fn.Strict ClientFails) (only : fn.Only ClientStatement.Sendable)
    (db : Db) :
    fn.run (Session.alone clientEngine) db = fn.run ClientStatement.exec db ∨
      ∃ error, (fn.run (Session.alone clientEngine) db).1 = .error error ∧
        (fn.run ClientStatement.exec db).1 = .error error := by
  induction fn generalizing db with
  | done result => exact .inl rfl
  | call statement next ih =>
      have sent := ClientStatement.execSent_eq only.1 db
      rw [Program.run_call, Program.run_call, Session.alone, clientEngine]
      simp only [sent]
      generalize statement.exec db = reached
      obtain ⟨answer, middle⟩ := reached
      cases answer with
      | ok rows => exact ih (.ok rows) (strict _).1 (only.2 _) middle
      | error error =>
          obtain ⟨exception, thrown⟩ := (strict (.error error)).2 ⟨error, rfl⟩
          simp only [thrown]
          exact .inr ⟨exception, rfl, rfl⟩

/-- **A transaction takes effect as a whole or not at all**, whatever fails. If
it returns, it has taken effect; if it throws, a `COMMIT` may still have been
executed. -/
theorem outcome_atomic (strict : fn.Strict ClientFails) (only : fn.Only ClientStatement.Sendable)
    (plan : ℕ → Option (Fault PgError)) (db : Db) :
    match outcome plan fn db with
    | (.ok value, after) => IssueFlow.transaction fn db = (.ok value, after)
    | (.error _, after) => after = db ∨
        ∃ value, IssueFlow.transaction fn db = (.ok value, after) := by
  -- What the body returns on the server is what the transaction returns.
  have whole {value : α} {changed : Db}
      (ran : fn.run (Session.alone clientEngine) db = (.ok value, changed)) :
      IssueFlow.transaction fn db = (.ok value, changed) := by
    rcases run_alone strict only db with same | ⟨error, thrown, -⟩
    · rw [IssueFlow.transaction, ← same, ran]
    · rw [ran] at thrown
      cases thrown
  have atomic : (transaction fn).wp (Pool.exec clientEngine plan)
      (fun value after => IssueFlow.transaction fn db = (.ok value, after.committed))
      (fun _ after => after.committed = db ∨
        ∃ value, IssueFlow.transaction fn db = (.ok value, after.committed))
      (Session.fresh db) := by
    -- Without a connection nothing is sent.
    refine wp_withClient ?_ fun _ _ same => .inl same
    intro taken same block
    have outside : taken.block = .outside := block
    -- Until the `COMMIT` only the transaction sees what the body does.
    have works : ∀ begun : Session Db, begun.committed = taken.committed →
        begun.block = .inside taken.committed →
        (inSession fn).wp (Session.exec clientEngine plan)
          (fun value after => after.committed = taken.committed ∧ ∃ changed,
            after.block = .inside changed ∧
              IssueFlow.transaction fn taken.committed = (.ok value, changed))
          (fun _ after => after.committed = taken.committed) begun := by
      intro begun data inside
      refine Program.wp_mono ?_ ?_ (Session.wp_inSession strict inside)
      · rintro value after ⟨kept, changed, ended, ran⟩
        refine ⟨kept.trans data, changed, ended, ?_⟩
        rw [same] at ran ⊢
        exact whole ran
      · intro _ after kept
        exact kept.trans data
    have ends := Session.wp_inTransaction
      (fun before value after => IssueFlow.transaction fn before = (.ok value, after)) outside works
    rw [same] at ends
    exact Program.wp_mono (fun _ _ committed => committed.2) (fun _ _ either => either) ends
  unfold Program.wp at atomic
  rw [outcome]
  generalize (transaction fn).run (Pool.exec clientEngine plan) (Session.fresh db) = reached
    at atomic ⊢
  obtain ⟨result, session⟩ := reached
  cases result <;> exact atomic

/-- **Without faults** a transaction ends as the whole does. -/
theorem outcome_faultless (strict : fn.Strict ClientFails)
    (only : fn.Only ClientStatement.Sendable) (db : Db) :
    (outcome (fun _ => none) fn db).1 = (IssueFlow.transaction fn db).1 := by
  have ended : (outcome (fun _ => none) fn db).1 = (fn.run (Session.alone clientEngine) db).1 :=
    run_withClient_faultless strict db
  have whole : (IssueFlow.transaction fn db).1 = (fn.run ClientStatement.exec db).1 := by
    rw [IssueFlow.transaction]
    generalize fn.run ClientStatement.exec db = reached
    obtain ⟨result, after⟩ := reached
    cases result <;> rfl
  rw [ended, whole]
  rcases run_alone strict only db with same | ⟨error, sent, executed⟩
  · rw [same]
  · rw [sent, executed]

/-- The client of a transaction is given back exactly once, if it was taken. -/
theorem released_once (plan : ℕ → Option (Fault PgError)) (fn : Transaction α) (db : Db) :
    (events plan fn db).countP (·.op.isRelease) = if (plan 0).isNone then 1 else 0 :=
  withClient_released _ _

end DatabaseService

end IssueFlow
