import IssueFlow.Database.Transitions

/-!
# What a statement does to the comments

The inversion lemma of the comments table: a statement leaves the comments as
they are, inserts one, writes one over an expected version, or removes one.

## Main definitions

* `writesComment` — a versioned write of a comment took effect
* `CommentsTransition` — the ways the comments change

## Main results

* `comments_transition` — every statement changes the comments in one of them
-/

namespace IssueFlow

open Store Semantics

/-- Did the statement write the comment and raise its version? -/
def writesComment (id : ℕ) (event : Event Statement Db) : Bool :=
  match event.op with
  | .command (.updateContentAndMentions target expectedVersion content mentionedUserIds
      onCommitting) =>
      target = id && affected (transaction (CommentsRepository.updateContentAndMentions target
        expectedVersion content mentionedUserIds onCommitting) event.state).1
  | _ => false

/-- The transaction of a comment PATCH takes effect on one comment or changes
nothing. -/
theorem updateContentAndMentions_cases (target : ℕ) (expectedVersion : Option ℕ)
    (content : String) (mentionedUserIds : List ℕ) (onCommitting : CommentRow → AuditInsert)
    (db : Db) :
    (affected (transaction (CommentsRepository.updateContentAndMentions target expectedVersion
        content mentionedUserIds onCommitting) db).1 = false ∧
      (transaction (CommentsRepository.updateContentAndMentions target expectedVersion
        content mentionedUserIds onCommitting) db).2 = db) ∨
    ∃ row, db.comments.get? target = some row ∧ expectedVersion = some row.version ∧
      affected (transaction (CommentsRepository.updateContentAndMentions target expectedVersion
        content mentionedUserIds onCommitting) db).1 = true ∧
      (transaction (CommentsRepository.updateContentAndMentions target expectedVersion
        content mentionedUserIds onCommitting) db).2.comments = db.comments.set
          { row with content := content, version := row.version + 1, updatedAt := db.now } := by
  rw [CommentsRepository.updateContentAndMentions_eq]
  cases matched : (db.comments.get? target).filter fun row =>
      expectedVersion = some row.version with
  | none => exact .inl ⟨rfl, rfl⟩
  | some row =>
      obtain ⟨stored, version⟩ := Option.filter_eq_some_iff.mp matched
      simp only
      -- The last version, the COMMIT, a user who is missing, and a name mentioned twice.
      split_ifs
      · exact .inl ⟨rfl, rfl⟩
      · exact .inr ⟨row, stored, of_decide_eq_true version, rfl, rfl⟩
      · exact .inl ⟨rfl, rfl⟩
      · exact .inl ⟨rfl, rfl⟩

/-- What a statement can do to the comments. -/
inductive CommentsTransition (db : Db) (statement : Statement) (after : Db) : Prop
  | kept (same : ∀ id, after.comments.get? id = db.comments.get? id)
      (drawn : db.comments.next ≤ after.comments.next)
      (silent : ∀ id, writesComment id ⟨statement, db⟩ = false)
  | inserted (create : ℕ → CommentRow) (keyed : ∀ id, Keyed.key (create id) = id)
      (version : ∀ id, (create id).version = 1) (executed : after.comments =
        db.comments.insert create keyed)
      (silent : ∀ id, writesComment id ⟨statement, db⟩ = false)
  | written (row new : CommentRow) (stored : db.comments.get? row.id = some row)
      (key : new.id = row.id) (version : new.version = row.version + 1)
      (executed : after.comments = db.comments.set new)
      (writes : ∀ id, writesComment id ⟨statement, db⟩ = decide (row.id = id))
  | removed (target : ℕ)
      (executed : after.comments = db.comments.remove fun row => row.id = target)
      (silent : ∀ id, writesComment id ⟨statement, db⟩ = false)

/-- **Every statement** changes the comments in one of the listed ways. -/
theorem comments_transition [Postgres] (statement : Statement) (db : Db) :
    CommentsTransition db statement (exec statement db).2 := by
  have unchanged (same : (exec statement db).2.comments = db.comments)
      (silent : ∀ id, writesComment id ⟨statement, db⟩ = false) :
      CommentsTransition db statement (exec statement db).2 :=
    .kept (fun id => by rw [same]) (by rw [same]) silent
  cases statement with
  | select read => exact unchanged rfl fun _ => rfl
  | command write =>
      have frame := (write.exec_sameOutside db).comments
      cases write with
      | createWithMentions input onCommitting =>
          rcases CommentsRepository.createWithMentions_cases input onCommitting db with
            ⟨exception, after, executed⟩ | executed
          · -- A rollback keeps the key that was drawn.
            have rolledBack := congrArg (·.2.comments) executed
            refine .kept (fun id => ?_) ?_ fun _ => rfl
            · exact (congrArg (·.get? id) rolledBack).trans (Table.get?_keepDrawn _)
            · exact (le_max_left _ _).trans_eq (congrArg Table.next rolledBack).symm
          · exact .inserted (ClientStatement.createdComment input.ticketId input.authorId
              input.content db.now) (fun _ => rfl) (fun _ => rfl)
              (congrArg (·.2.comments) executed) fun _ => rfl
      | updateContentAndMentions target expectedVersion content mentionedUserIds onCommitting =>
          rcases updateContentAndMentions_cases target expectedVersion content mentionedUserIds
            onCommitting db with ⟨silent, same⟩ | ⟨row, stored, -, answered, executed⟩
          · exact unchanged (congrArg Db.comments same) fun id => by simp [writesComment, silent]
          · obtain rfl : row.id = target := Table.key_of_get? stored
            exact .written row
              { row with content := content, version := row.version + 1, updatedAt := db.now }
              stored rfl rfl executed fun id => by simp [writesComment, answered]
      | deleteComment target => exact .removed target rfl fun _ => rfl
      | _ => exact unchanged (frame (by simp [Command.tables])) fun _ => rfl

namespace CommentsTransition

variable {db after : Db} {statement : Statement} {id : ℕ} {row row' : CommentRow}

/-- A new comment has a key that was not drawn before, and version 1. -/
theorem created (transition : CommentsTransition db statement after)
    (absent : db.comments.get? id = none) (stored : after.comments.get? id = some row) :
    row.version = 1 ∧ db.comments.next ≤ id := by
  cases transition with
  | kept same drawn silent =>
      rw [same, absent] at stored
      cases stored
  | inserted create keyed version executed silent =>
      rw [executed, Table.get?_insert] at stored
      split_ifs at stored with fresh
      · obtain rfl := Option.some.inj stored
        exact ⟨version id, fresh.ge⟩
      · rw [absent] at stored
        cases stored
  | written old new found key version executed writes =>
      rw [executed, Table.get?_set, absent, Option.map_none, ite_self] at stored
      cases stored
  | removed target executed silent =>
      rw [executed, Table.get?_remove, absent] at stored
      cases stored

/-- A comment that stays was written once or keeps its version. -/
theorem version (transition : CommentsTransition db statement after)
    (stored : db.comments.get? id = some row) (stored' : after.comments.get? id = some row') :
    row'.version = row.version + if writesComment id ⟨statement, db⟩ then 1 else 0 := by
  cases transition with
  | kept same drawn silent =>
      rw [same, stored] at stored'
      obtain rfl := Option.some.inj stored'
      simp [silent]
  | inserted create keyed version executed silent =>
      -- The new key is not the key of a stored comment.
      have old : id ≠ db.comments.next := (Table.lt_next_of_get? stored).ne
      rw [executed, Table.get?_insert, if_neg old, stored] at stored'
      obtain rfl := Option.some.inj stored'
      simp [silent]
  | written old new found key version executed writes =>
      have keyNew : Keyed.key new = old.id := key
      rw [executed, Table.get?_set, keyNew] at stored'
      by_cases same : id = old.id
      · subst same
        rw [if_pos rfl, found] at stored'
        obtain rfl := Option.some.inj stored'
        obtain rfl := Option.some.inj (found.symm.trans stored)
        simp [writes, version]
      · rw [if_neg same, stored] at stored'
        obtain rfl := Option.some.inj stored'
        simp [writes, Ne.symm same]
  | removed target executed silent =>
      rw [executed, Table.get?_remove, stored] at stored'
      obtain ⟨same, -⟩ := Option.filter_eq_some_iff.mp stored'
      obtain rfl := Option.some.inj same
      simp [silent]

/-- A comment that is written is stored. -/
theorem stored (transition : CommentsTransition db statement after)
    (writes : writesComment id ⟨statement, db⟩ = true) :
    ∃ row, db.comments.get? id = some row := by
  cases transition with
  | kept same drawn silent => simp [silent] at writes
  | inserted create keyed version executed silent => simp [silent] at writes
  | written old new found key version executed writes' =>
      obtain rfl : old.id = id := by simpa [writes'] using writes
      exact ⟨old, found⟩
  | removed target executed silent => simp [silent] at writes

end CommentsTransition

end IssueFlow
