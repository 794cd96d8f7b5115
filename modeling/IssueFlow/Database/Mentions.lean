import IssueFlow.Database.CommentTransitions

/-!
# What a statement does to the mentions

A statement leaves the mention rows as they are, replaces those of the comment
it writes, or removes those of a comment or a user it deletes. So no mention row
is left without its comment or its user.

## Main definitions

* `mentionedIn` — the users mentioned in a comment
* `MentionsStored` — mention rows refer to stored comments and users
* `storesComment`, `Command.mentions` — a write of a text together with its mentions
* `MentionsStep` — the ways the mentions change

## Main results

* `mentions_step` — every statement changes the mentions in one of them
* `MentionsStep.mentionsStored` — no mention row is left behind
* `MentionsStep.mentionedIn` — the mentions of one comment after a statement
-/

namespace IssueFlow

open Store Semantics

/-- The users mentioned in a comment. -/
def mentionedIn (db : Db) (commentId : ℕ) : List ℕ :=
  (db.commentMentions.filter fun row => row.commentId = commentId).map (·.mentionedUserId)

/-- Every mention row refers to a comment and a user that are stored, and no
user is mentioned twice in a comment. -/
structure MentionsStored (db : Db) : Prop where
  comment : ∀ row ∈ db.commentMentions, (db.comments.get? row.commentId).isSome
  user : ∀ row ∈ db.commentMentions, (db.users.get? row.mentionedUserId).isSome
  once : ∀ commentId, (mentionedIn db commentId).Nodup

theorem MentionsStored.empty : MentionsStored Db.empty where
  comment _ member := absurd member List.not_mem_nil
  user _ member := absurd member List.not_mem_nil
  once _ := List.nodup_nil

/-- The text and the mentions that a write stores together. -/
def Command.mentions : Command → Option (String × List ℕ)
  | createWithMentions input _ => some (input.content, input.mentionedUserIds)
  | updateContentAndMentions _ _ content mentionedUserIds _ => some (content, mentionedUserIds)
  | _ => none

/-- Did the statement store a text and the mentions of the comment? -/
def storesComment (id : ℕ) (event : Event Statement Db) : Bool :=
  match event.op with
  | .command (.createWithMentions input onCommitting) =>
      match (transaction (CommentsRepository.createWithMentions input onCommitting)
        event.state).1 with
      | .ok comment => comment.id = id
      | .error _ => false
  | _ => writesComment id event

/-- What a statement can do to the mentions. -/
inductive MentionsStep (db : Db) (statement : Statement) (after : Db) : Prop
  | kept (mentions : after.commentMentions = db.commentMentions)
      (comments : ∀ id, after.comments.get? id = db.comments.get? id)
      (users : ∀ id, (db.users.get? id).isSome → (after.users.get? id).isSome)
      (silent : ∀ id, storesComment id ⟨statement, db⟩ = false)
  | stored (write : Command) (comment : CommentRow) (mentionedUserIds : List ℕ)
      (sent : statement = .command write)
      (supplied : write.mentions = some (comment.content, mentionedUserIds))
      (distinct : mentionedUserIds.Nodup)
      (existing : ∀ id ∈ mentionedUserIds, (db.users.get? id).isSome)
      (mentions : after.commentMentions =
        (db.commentMentions.filter fun row => row.commentId ≠ comment.id) ++
          mentionedUserIds.map fun user => ⟨comment.id, user, db.now⟩)
      (comments : ∀ id, after.comments.get? id =
        if id = comment.id then some comment else db.comments.get? id)
      (users : after.users = db.users)
      (stores : ∀ id, storesComment id ⟨statement, db⟩ = decide (comment.id = id))
  | commentDeleted (target : ℕ)
      (mentions : after.commentMentions =
        db.commentMentions.filter fun row => row.commentId ≠ target)
      (comments : ∀ id, after.comments.get? id =
        if id = target then none else db.comments.get? id)
      (users : after.users = db.users) (silent : ∀ id, storesComment id ⟨statement, db⟩ = false)
  | userDeleted (target : ℕ)
      (mentions : after.commentMentions =
        db.commentMentions.filter fun row => row.mentionedUserId ≠ target)
      (comments : after.comments = db.comments)
      (users : ∀ id, after.users.get? id = if id = target then none else db.users.get? id)
      (silent : ∀ id, storesComment id ⟨statement, db⟩ = false)

/-- A key that has not been drawn has no mentions. -/
theorem MentionsStored.fresh {db : Db} (sound : MentionsStored db) :
    ∀ row ∈ db.commentMentions, row.commentId ≠ db.comments.next := by
  intro row member same
  obtain ⟨comment, stored⟩ := Option.isSome_iff_exists.mp (sound.comment row member)
  exact absurd same (Table.lt_next_of_get? stored).ne

/-- A removal by key, seen by a lookup. -/
private theorem get?_remove_key {ρ : Type} [Keyed ρ] (t : Table ρ) (target id : ℕ) :
    (t.remove fun row => Keyed.key row = target).get? id =
      if id = target then none else t.get? id := by
  rw [Table.get?_remove]
  cases found : t.get? id with
  | none => simp
  | some row =>
      obtain rfl := Table.key_of_get? found
      split_ifs with same <;> simp [same]

variable [Postgres]

omit [Postgres] in
/-- No row of the three tables has changed. -/
theorem MentionsStep.of_rows {db after : Db} {statement : Statement}
    (mentions : after.commentMentions = db.commentMentions)
    (comments : after.comments.rows = db.comments.rows) (users : after.users = db.users)
    (silent : ∀ id, storesComment id ⟨statement, db⟩ = false) :
    MentionsStep db statement after :=
  .kept mentions (Table.get?_congr comments) (fun _ stored => users ▸ stored) silent

omit [Postgres] in
/-- A new comment is stored with its mentions, or the transaction is rolled back. -/
private theorem mentions_step_create (input : CommentInput)
    (onCommitting : CommentRow → AuditInsert) {db : Db} (sound : MentionsStored db) :
    MentionsStep db (.command (.createWithMentions input onCommitting))
      (transaction (CommentsRepository.createWithMentions input onCommitting) db).2 := by
  have closed := CommentsRepository.createWithMentions_eq input onCommitting db sound.fresh
  -- After a rollback the rows are the old ones; only keys may have been drawn.
  have refused {error : PgError} {after : Db}
      (answered : transaction (CommentsRepository.createWithMentions input onCommitting) db =
        (.error error, rollback db after)) :
      MentionsStep db (.command (.createWithMentions input onCommitting))
        (transaction (CommentsRepository.createWithMentions input onCommitting) db).2 := by
    rw [answered]
    refine .of_rows rfl rfl rfl fun id => ?_
    simp only [storesComment, answered]
  simp only at closed
  split_ifs at closed with references distinct existing
  · refine .stored _ (ClientStatement.createdComment input.ticketId input.authorId
      input.content db.now db.comments.next) input.mentionedUserIds rfl rfl distinct
      (fun id member => List.all_eq_true.mp existing id member) ?_ ?_ ?_ ?_
    · -- The key is new, so there is nothing to replace.
      have kept : db.commentMentions.filter
          (fun row => row.commentId ≠ db.comments.next) = db.commentMentions :=
        List.filter_eq_self.mpr fun row member => decide_eq_true (sound.fresh row member)
      rw [closed]
      exact congrArg (· ++ _) kept.symm
    · -- The only comment that is new is the one with the new key.
      intro id
      rw [closed]
      refine (Table.get?_insert _ fun _ => rfl).trans ?_
      show (if id = db.comments.next then _ else _) = if id = db.comments.next then _ else _
      split_ifs with same
      · rw [same]
      · rfl
    · rw [closed]
    · intro id
      simp only [storesComment, closed]
  · exact refused closed
  · exact refused closed
  · exact refused closed

omit [Postgres] in
/-- A comment is written over together with its mentions, or nothing happens. -/
private theorem mentions_step_update (target : ℕ) (expectedVersion : Option ℕ) (content : String)
    (mentionedUserIds : List ℕ) (onCommitting : CommentRow → AuditInsert) (db : Db) :
    MentionsStep db (.command (.updateContentAndMentions target expectedVersion content
      mentionedUserIds onCommitting)) (transaction
        (CommentsRepository.updateContentAndMentions target expectedVersion content
          mentionedUserIds onCommitting) db).2 := by
  have closed := CommentsRepository.updateContentAndMentions_eq target expectedVersion content
    mentionedUserIds onCommitting db
  -- A stale version and mentions that violate a constraint leave the database.
  have missed {answer : Except PgError (Option CommentRow)}
      (answered : transaction (CommentsRepository.updateContentAndMentions target expectedVersion
        content mentionedUserIds onCommitting) db = (answer, db))
      (nothing : affected answer = false) :
      MentionsStep db (.command (.updateContentAndMentions target expectedVersion content
        mentionedUserIds onCommitting)) (transaction
          (CommentsRepository.updateContentAndMentions target expectedVersion content
            mentionedUserIds onCommitting) db).2 := by
    rw [answered]
    refine .of_rows rfl rfl rfl fun id => ?_
    simp [storesComment, writesComment, answered, nothing]
  cases matched : (db.comments.get? target).filter fun row =>
      expectedVersion = some row.version with
  | none =>
      rw [matched] at closed
      exact missed closed rfl
  | some row =>
      obtain ⟨stored, -⟩ := Option.filter_eq_some_iff.mp matched
      obtain rfl : row.id = target := Table.key_of_get? stored
      rw [matched] at closed
      simp only at closed
      split_ifs at closed with overflows distinct existing
      · exact missed closed rfl
      · refine .stored _
          { row with content := content, version := row.version + 1, updatedAt := db.now }
          mentionedUserIds rfl rfl distinct
          (fun id member => List.all_eq_true.mp existing id member) ?_ ?_ ?_ ?_
        · rw [closed]
        · intro id
          rw [closed]
          refine (Table.get?_set _).trans ?_
          show (if id = row.id then _ else _) = if id = row.id then _ else _
          split_ifs with same
          · rw [same, stored]
            rfl
          · rfl
        · rw [closed]
        · intro id
          simp [storesComment, writesComment, closed, affected]
      · exact missed closed rfl
      · exact missed closed rfl

/-- **Every statement** changes the mentions in one of the listed ways. -/
theorem mentions_step (statement : Statement) {db : Db} (sound : MentionsStored db) :
    MentionsStep db statement (exec statement db).2 := by
  cases statement with
  | select read => exact .of_rows rfl rfl rfl fun _ => rfl
  | command write =>
      -- What the write is not allowed to touch is as it was.
      have frame := write.exec_sameOutside db
      have comments := frame.comments
      have mentions := frame.commentMentions
      have users := frame.users
      cases write with
      | createUser input =>
          refine .kept (mentions (by simp [Command.tables]))
            (fun _ => by rw [exec_command, comments (by simp [Command.tables])]) ?_ fun _ => rfl
          intro id stored
          simp only [exec, Command.exec, UsersRepository.create]
          split_ifs
          · exact stored
          · exact Table.isSome_get?_insert _ (fun _ => rfl) stored
      | updateUser target input =>
          refine .kept (mentions (by simp [Command.tables]))
            (fun _ => by rw [exec_command, comments (by simp [Command.tables])]) ?_ fun _ => rfl
          intro id stored
          simp only [exec, Command.exec]
          rcases UsersRepository.update_cases target input db with same | ⟨row, -, written⟩
          · rwa [same]
          · rw [written, Table.get?_set]
            split_ifs
            · rwa [Option.isSome_map]
            · exact stored
      | deleteUser target =>
          simp only [exec, Command.exec]
          rcases UsersRepository.delete_cases target db with same | ⟨-, executed⟩
          · rw [same]
            exact .of_rows rfl rfl rfl fun _ => rfl
          · -- The mentions of the user go with the user.
            rw [executed]
            exact .userDeleted target rfl rfl (get?_remove_key db.users target) fun _ => rfl
      | createWithMentions input onCommitting =>
          exact mentions_step_create input onCommitting sound
      | updateContentAndMentions target expectedVersion content mentionedUserIds onCommitting =>
          exact mentions_step_update target expectedVersion content mentionedUserIds
            onCommitting db
      | deleteComment target =>
          exact .commentDeleted target rfl (get?_remove_key db.comments target) rfl fun _ => rfl
      | _ =>
          exact .of_rows (mentions (by simp [Command.tables]))
            (congrArg Table.rows (comments (by simp [Command.tables])))
            (users (by simp [Command.tables])) fun _ => rfl

namespace MentionsStep

omit [Postgres]

variable {db after : Db} {statement : Statement}

/-- The mentions of a comment among rows of which some were replaced. -/
private theorem mentionedIn_replaced {id target : ℕ} {users : List ℕ} (now : Timestamp)
    (mentions : after.commentMentions =
      (db.commentMentions.filter fun row => row.commentId ≠ target) ++
        users.map fun user => ⟨target, user, now⟩) :
    mentionedIn after id = if id = target then users else mentionedIn db id := by
  rw [mentionedIn, mentions, List.filter_append, List.map_append, List.filter_filter]
  by_cases same : id = target
  · subst same
    -- The old rows of the comment are gone, the new ones are all its own.
    have others : db.commentMentions.filter
        (fun row => decide (row.commentId = id) && decide (row.commentId ≠ id)) = [] := by
      simp
    rw [if_pos rfl, others, List.filter_eq_self.mpr, List.map_map]
    · exact List.map_id users
    · intro row member
      obtain ⟨user, -, rfl⟩ := List.mem_map.mp member
      simp
  · -- Another comment keeps its rows, and none of the new ones is its own.
    have kept : ∀ row : MentionRow,
        (decide (row.commentId = id) && decide (row.commentId ≠ target)) =
          decide (row.commentId = id) := by
      intro row
      by_cases here : row.commentId = id
      · simp [here, same]
      · simp [here]
    have none : (users.map fun user => (⟨target, user, now⟩ : MentionRow)).filter
        (fun row => decide (row.commentId = id)) = [] := by
      refine List.filter_eq_nil_iff.mpr fun row member => ?_
      obtain ⟨user, -, rfl⟩ := List.mem_map.mp member
      simpa using Ne.symm same
    rw [if_neg same, none, List.map_nil, List.append_nil]
    simp only [kept]
    rfl

/-- The mentions of a comment among rows of which some were removed. -/
private theorem mentionedIn_filter {id : ℕ} {keep : MentionRow → Bool}
    (mentions : after.commentMentions = db.commentMentions.filter keep) :
    (mentionedIn after id).Sublist (mentionedIn db id) := by
  rw [mentionedIn, mentionedIn, mentions]
  exact (List.filter_sublist.filter _).map _

/-- **No mention row is left behind.** -/
theorem mentionsStored (step : MentionsStep db statement after) (sound : MentionsStored db) :
    MentionsStored after := by
  cases step with
  | kept mentions comments users silent =>
      constructor
      · intro row member
        rw [comments]
        exact sound.comment row (mentions ▸ member)
      · intro row member
        exact users _ (sound.user row (mentions ▸ member))
      · intro id
        rw [mentionedIn, mentions]
        exact sound.once id
  | stored write comment mentionedUserIds sent supplied distinct existing mentions comments users
      stores =>
      -- A mention is an old one of another comment, or one of the new ones.
      have member_cases {row : MentionRow} (member : row ∈ after.commentMentions) :
          (row ∈ db.commentMentions ∧ row.commentId ≠ comment.id) ∨
            (row.commentId = comment.id ∧ row.mentionedUserId ∈ mentionedUserIds) := by
        rw [mentions] at member
        rcases List.mem_append.mp member with old | new
        · obtain ⟨old, other⟩ := List.mem_filter.mp old
          exact .inl ⟨old, of_decide_eq_true other⟩
        · obtain ⟨user, given, rfl⟩ := List.mem_map.mp new
          exact .inr ⟨rfl, given⟩
      constructor
      · intro row member
        rw [comments]
        rcases member_cases member with ⟨old, other⟩ | ⟨same, -⟩
        · rw [if_neg other]
          exact sound.comment row old
        · rw [if_pos same]
          rfl
      · intro row member
        rw [users]
        rcases member_cases member with ⟨old, -⟩ | ⟨-, given⟩
        · exact sound.user row old
        · exact existing _ given
      · intro id
        rw [mentionedIn_replaced _ mentions]
        split_ifs
        · exact distinct
        · exact sound.once id
  | commentDeleted target mentions comments users silent =>
      constructor
      · -- The mentions of the comment are gone with it.
        intro row member
        rw [mentions] at member
        obtain ⟨old, other⟩ := List.mem_filter.mp member
        rw [comments, if_neg (of_decide_eq_true other)]
        exact sound.comment row old
      · intro row member
        rw [mentions] at member
        rw [users]
        exact sound.user row (List.mem_filter.mp member).1
      · intro id
        exact (sound.once id).sublist (mentionedIn_filter mentions)
  | userDeleted target mentions comments users silent =>
      constructor
      · intro row member
        rw [mentions] at member
        rw [comments]
        exact sound.comment row (List.mem_filter.mp member).1
      · -- So are the mentions of the user.
        intro row member
        rw [mentions] at member
        obtain ⟨old, other⟩ := List.mem_filter.mp member
        rw [users, if_neg (of_decide_eq_true other)]
        exact sound.user row old
      · intro id
        exact (sound.once id).sublist (mentionedIn_filter mentions)

/-- A user that is mentioned is stored. -/
theorem isSome_of_mem_mentionedIn (sound : MentionsStored db) {id user : ℕ}
    (mentioned : user ∈ mentionedIn db id) : (db.users.get? user).isSome := by
  obtain ⟨row, member, rfl⟩ := List.mem_map.mp mentioned
  exact sound.user row (List.mem_filter.mp member).1

/-- **The mentions of one comment** after a statement: those that were stored with
its text, or those it had before as far as the users still exist. -/
theorem mentioned (step : MentionsStep db statement after) (sound : MentionsStored db)
    {comment : CommentRow} (found : after.comments.get? comment.id = some comment) :
    (storesComment comment.id ⟨statement, db⟩ = false ∧
      db.comments.get? comment.id = some comment ∧
      ∀ user, user ∈ mentionedIn after comment.id ↔
        user ∈ mentionedIn db comment.id ∧ (after.users.get? user).isSome) ∨
    (storesComment comment.id ⟨statement, db⟩ = true ∧
      ∃ write, statement = .command write ∧
        write.mentions = some (comment.content, mentionedIn after comment.id)) := by
  have sound' := step.mentionsStored sound
  -- Whatever rows there are now, they refer to users that are stored.
  have still {ids : List ℕ} (same : mentionedIn after comment.id = ids) (user : ℕ) :
      user ∈ mentionedIn after comment.id ↔ user ∈ ids ∧ (after.users.get? user).isSome := by
    rw [← same]
    exact (and_iff_left_of_imp (isSome_of_mem_mentionedIn sound')).symm
  cases step with
  | kept mentions comments users silent =>
      rw [comments] at found
      exact .inl ⟨silent _, found, still (by rw [mentionedIn, mentions]; rfl)⟩
  | stored write new mentionedUserIds sent supplied distinct existing mentions comments users
      stores =>
      have replaced : mentionedIn after comment.id =
          if comment.id = new.id then mentionedUserIds else mentionedIn db comment.id :=
        mentionedIn_replaced _ mentions
      rw [comments] at found
      split_ifs at found with same
      · obtain rfl := Option.some.inj found
        rw [if_pos rfl] at replaced
        exact .inr ⟨by simp [stores], write, sent, by rw [supplied, replaced]⟩
      · rw [if_neg same] at replaced
        exact .inl ⟨by simp [stores, Ne.symm same], found, still replaced⟩
  | commentDeleted target mentions comments users silent =>
      rw [comments] at found
      split_ifs at found with same
      have replaced : mentionedIn after comment.id =
          if comment.id = target then [] else mentionedIn db comment.id :=
        mentionedIn_replaced db.now (mentions.trans (List.append_nil _).symm)
      rw [if_neg same] at replaced
      exact .inl ⟨silent _, found, still replaced⟩
  | userDeleted target mentions comments users silent =>
      rw [comments] at found
      refine .inl ⟨silent _, found, fun user => ?_⟩
      constructor
      · intro mentioned
        exact ⟨(mentionedIn_filter mentions).subset mentioned,
          isSome_of_mem_mentionedIn sound' mentioned⟩
      · rintro ⟨mentioned, stored⟩
        obtain ⟨row, member, rfl⟩ := List.mem_map.mp mentioned
        obtain ⟨member, here⟩ := List.mem_filter.mp member
        have other : row.mentionedUserId ≠ target := by
          rintro same
          rw [users, if_pos same] at stored
          cases stored
        refine List.mem_map.mpr ⟨row, List.mem_filter.mpr ⟨?_, here⟩, rfl⟩
        rw [mentions]
        exact List.mem_filter.mpr ⟨member, decide_eq_true other⟩

end MentionsStep

end IssueFlow
