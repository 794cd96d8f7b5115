import IssueFlow.Properties.StoredMentions
import IssueFlow.System.Sequential
import IssueFlow.System.Shapes
import IssueFlow.System.TicketEffects

/-!
# Errors and what they leave behind

One statement of a request fails. When the request is then rejected, nothing
should have been stored. Two requests do not keep to that. A comment is
answered with its mentions, which are read back after the transaction has been
committed. And an escalation cycle that fails at a ticket has already written
the tickets before it.

## Main definitions

* `Request.readBack` — the number of the statement that reads the mentions back
* `Request.tellsLate` — the statements whose failure is reported too late

## Main results

* `errors_store_nothing` — for every other statement an error means that nothing was stored
-/

namespace IssueFlow

open Store Semantics JavaScript

section Numbers

variable [Postgres]

/-- The statements that resolve the mentions of a text. -/
def resolutions (content : String) : ℕ := if (parseMentions content).isEmpty then 0 else 1

/-- The number of the statement that reads the mentions of a comment back, for
the requests that get so far. Before it there are two reads, or a read and the
`DELETE` of the old mentions, further `BEGIN`, the comment, the audit entry and
`COMMIT`. -/
def Request.readBack (db : Db) : Request → Option ℕ
  | createComment ticketId dto _ =>
      if (TicketsRepository.findById ticketId db).isSome && (db.users.get? dto.authorId).isSome then
        some (6 + resolutions dto.content + insertions (resolvedIds dto.content db))
      else none
  | updateComment ticketId commentId dto _ =>
      match db.comments.get? commentId with
      | none => none
      | some row =>
          if row.ticketId = ticketId && dto.version.toOption = some row.version &&
              !versionOverflows row.version then
            some (6 + resolutions dto.content + insertions (resolvedIds dto.content db))
          else none
  | _ => none

/-- The number of tickets that a cycle writes when no statement fails. -/
def EscalationService.writes (db : Db) : ℕ :=
  (reached db).countP fun ticket => (decision ticket).isSome

/-- Is a failure reported after something has been stored? The writes of a cycle
have the odd numbers. One that stops at a ticket reports that after its writes,
unless a statement that fails has ended it before. -/
def Request.tellsLate (db : Db) (position : ℕ) : Request → Bool
  | escalate =>
      position ≠ 0 &&
        if position % 2 = 1 && position < 2 * EscalationService.writes db then position ≠ 1
        else EscalationService.stops db && EscalationService.writes db ≠ 0
  | request => request.readBack db = some position

end Numbers

/-! ### A part that is followed by reads -/

section Followed

variable [Postgres] {α β : Type} {position : ℕ} {error : PgError}

/-- Whenever the request is rejected with this fault, nothing was stored. -/
def Faultless (position : ℕ) (error : PgError) (p : Service α) (db : Db) : Prop :=
  ∀ exception after,
    p.run (execUnder (.single position error)) (db, 0) = (.error exception, after) →
      SameRows db after.1

omit [Postgres] in
/-- A run that is rejected. -/
theorem rejected_iff {ran : Except Exception α × Db × ℕ} {exception : Exception} {after : Db × ℕ}
    {db : Db} (rejected : ran = (.error exception, after)) :
    (∀ exception after, ran = (.error exception, after) → SameRows db after.1) ↔
      SameRows db after.1 := by
  constructor
  · exact fun same => same exception after rejected
  · intro same exception' after' rejected'
    obtain ⟨-, rfl⟩ := Prod.mk.inj (rejected.symm.trans rejected')
    exact same

theorem Harmless.faultless {p : Service α} (harmless : Harmless p) (db : Db) :
    Faultless position error p db :=
  fun exception after ran => harmless _ (db, 0) exception after ran

/-- A part that stores something only if it returns, and reads that follow it.
If something was stored, none of these reads may fail. -/
theorem Faultless.followed {p : Service β} {next : β → Service α} {db : Db}
    (strict : p.Strict StatementFails) (harmless : Harmless p)
    (reads : ∀ value, (next value).Only IsRead)
    (plain : ∀ value after number, p.run (execUnder .none) (db, 0) = (.ok value, after, number) →
      SameRows db after ∨ ∃ value' after', (next value).run
        (execUnder (.single position error)) (after, number) = (.ok value', after')) :
    Faultless position error (p >>= next) db := by
  intro exception after ran
  have fault := oneFault position error
  rw [Program.run_bind] at ran
  by_cases inside : position < (p.run (execUnder .none) (db, 0)).2.2
  · -- The fault is met by the first part, which throws.
    obtain ⟨thrown, met⟩ := strict.run_met fault (db, 0) (Nat.zero_le _) inside
    generalize reached : p.run (execUnder (.single position error)) (db, 0) = state at met ran
    obtain ⟨result, middle⟩ := state
    obtain rfl : result = .error thrown := met
    obtain ⟨-, rfl⟩ := Prod.mk.inj ran
    exact harmless _ (db, 0) thrown middle reached
  · -- The first part runs as without the fault.
    have spared := fault.run_spared p (db, 0) (.inr (Nat.not_lt.mp inside))
    rw [spared] at ran
    generalize reached : p.run (execUnder .none) (db, 0) = state at ran plain
    obtain ⟨result, middle, number⟩ := state
    cases result with
    | error thrown =>
        obtain ⟨-, rfl⟩ := Prod.mk.inj ran
        exact harmless _ (db, 0) thrown _ reached
    | ok value =>
        simp only at ran
        rcases plain value middle number rfl with same | ⟨value', after', returned⟩
        · have kept := run_reads_under (.single position error) (reads value) (middle, number)
          rw [ran] at kept
          have kept : after.1 = middle := kept
          rwa [kept]
        · rw [returned] at ran
          cases ran

/-- When the first part has stored something, the one read that follows it must
not fail. -/
theorem Faultless.followed_iff {p : Service β} {next : β → Service α} {db after : Db} {value : β}
    {last : ℕ} (strict : p.Strict StatementFails) (harmless : Harmless p)
    (reads : ∀ value, (next value).Only IsRead)
    (plain : p.run (execUnder .none) (db, 0) = (.ok value, after, last))
    (stored : ¬ SameRows db after)
    (answered : ∃ response, (next value).run (execUnder (.single position error)) (after, last) =
      (if last = position then .error (.database error) else .ok response, after, last + 1)) :
    Faultless position error (p >>= next) db ↔ last ≠ position := by
  obtain ⟨response, answered⟩ := answered
  constructor
  · rintro faultless rfl
    -- The fault meets the read: the request fails after the first part has stored.
    have fault := oneFault last error
    have spared := fault.run_spared p (db, 0) (.inr (plain ▸ Nat.le_refl _))
    have ran : (p >>= next).run (execUnder (.single last error)) (db, 0) =
        (.error (.database error), after, last + 1) := by
      rw [Program.run_bind, spared, plain]
      simp only
      rw [answered, if_pos rfl]
    exact stored (faultless _ _ ran)
  · intro other
    refine .followed strict harmless reads ?_
    intro value' after' number ran
    obtain ⟨rfl, rfl, rfl⟩ : value = value' ∧ after = after' ∧ last = number := by
      simpa using plain.symm.trans ran
    rw [if_neg other] at answered
    exact .inr ⟨response, _, answered⟩

/-- The response to a comment, under one fault. -/
theorem CommentsService.run_toResponse (row : CommentRow) (db : Db) (number : ℕ) :
    ∃ response, (CommentsService.toResponse row).run (execUnder (.single position error))
        (db, number) =
      (if number = position then .error (.database error) else .ok response, db, number + 1) := by
  refine ⟨toCommentResponse row (CommentsRepository.findMentionedUsers row.id db), ?_⟩
  have sent : execUnder (.single position error) (.select (.findMentionedUsers row.id))
      (db, number) = faulty exec (Plan.single position error).statements
        (.select (.findMentionedUsers row.id)) (db, number) := rfl
  rw [CommentsService.toResponse, select, query, Program.call_bind, Program.run_call, sent, faulty,
    Plan.statements, Plan.single]
  split_ifs <;> rfl

end Followed

/-! ### Comments -/

section Comments

variable [Postgres]

/-- Sent without faults, a read only counts. -/
theorem run_select_plain {α : Type} (read : Query) (next : read.Rows → Service α) (db : Db)
    (number : ℕ) : (select read >>= next).run (execUnder .none) (db, number) =
      (next (read.eval db)).run (execUnder .none) (db, number + 1) := rfl

/-- Mentions that are resolved without faults. -/
theorem run_resolveMentions_plain {α : Type} (content : String) (next : List ℕ → Service α)
    (db : Db) (number : ℕ) :
    (CommentsService.resolveMentions content >>= next).run (execUnder .none) (db, number) =
      (next (resolvedIds content db)).run (execUnder .none)
        (db, number + resolutions content) := by
  unfold CommentsService.resolveMentions resolutions
  simp only
  split_ifs with empty
  · rw [resolvedIds_of_isEmpty empty]
    rfl
  · rfl

omit [Postgres] in
theorem select_strict (read : Query) : (select read).Strict StatementFails := query_strict _

omit [Postgres] in
theorem resolveMentions_strict (content : String) :
    (CommentsService.resolveMentions content).Strict StatementFails := by
  unfold CommentsService.resolveMentions
  simp only
  split_ifs
  · trivial
  · exact (select_strict _).bind fun _ => trivial

namespace CommentsService

/-- A comment POST up to its transaction. -/
def stored (ticketId : ℕ) (dto : CreateCommentDto)
    (onCommitting : List ℕ → CommentRow → AuditInsert) : Service CommentRow := do
  let _ ← TicketsService.assertExistsAndGet ticketId
  let _ ← UsersService.findById (some dto.authorId)
  let mentionedUserIds ← resolveMentions dto.content
  execute (.createWithMentions ⟨ticketId, dto.authorId, dto.content, mentionedUserIds⟩
    (onCommitting mentionedUserIds))

/-- A comment PATCH up to its transaction. -/
def changed (ticketId commentId : ℕ) (dto : UpdateCommentDto) (message : String)
    (onCommitting : CommentRow → List ℕ → CommentRow → AuditInsert) :
    Service (Option CommentRow) :=
  if !dto.version.isDefined then badRequest message
  else do
    let existing ← getOrThrow commentId
    if existing.ticketId ≠ ticketId then
      notFound s!"Comment {commentId} not found on ticket {ticketId}"
    else
      let mentionedUserIds ← resolveMentions dto.content
      execute (.updateContentAndMentions commentId dto.version.toOption dto.content
        mentionedUserIds (onCommitting existing mentionedUserIds))

omit [Postgres] in
theorem create_eq (ticketId : ℕ) (dto : CreateCommentDto) (performedBy : ℕ) :
    ∃ onCommitting, create ticketId dto performedBy =
      stored ticketId dto onCommitting >>= toResponse := by
  refine ⟨?entry, ?same⟩
  case same =>
    unfold create stored
    simp only [Program.bind_assoc]
    rfl

omit [Postgres] in
theorem update_eq (ticketId commentId : ℕ) (dto : UpdateCommentDto) (performedBy : ℕ) :
    ∃ message onCommitting, update ticketId commentId dto performedBy =
      changed ticketId commentId dto message onCommitting >>= finishUpdate commentId dto := by
  refine ⟨?message, ?entry, ?same⟩
  case same =>
    unfold update changed
    split_ifs
    · rfl
    · rw [Program.bind_assoc]
      congr 1
      funext existing
      split_ifs
      · rfl
      · rw [Program.bind_assoc]

omit [Postgres] in
theorem stored_strict (ticketId : ℕ) (dto : CreateCommentDto)
    (onCommitting : List ℕ → CommentRow → AuditInsert) :
    (stored ticketId dto onCommitting).Strict StatementFails := by
  unfold stored TicketsService.assertExistsAndGet TicketsService.getOrThrow UsersService.findById
    UsersService.getOrThrow
  refine Program.Strict.bind ((select_strict _).bind ?_) fun _ => ?_
  · rintro (_ | ticket) <;> trivial
  refine Program.Strict.bind (((select_strict _).bind ?_).bind fun _ => trivial) fun _ => ?_
  · rintro (_ | author) <;> trivial
  exact (resolveMentions_strict _).bind fun ids => query_strict _

theorem stored_harmless (ticketId : ℕ) (dto : CreateCommentDto)
    (onCommitting : List ℕ → CommentRow → AuditInsert) :
    Harmless (stored ticketId dto onCommitting) := by
  apply Harmless.first (TicketsService.getOrThrow_reads _)
  intro _
  apply Harmless.first (UsersService.findById_reads _)
  intro _
  apply Harmless.first (resolveMentions_reads _)
  intro ids
  exact Harmless.write (fun _ _ => rfl) fun _ _ => trivial

/-- A ticket that is found, without faults. -/
theorem run_assertExistsAndGet_plain {α : Type} {id : ℕ} {db : Db} {row : TicketRow}
    (found : TicketsRepository.findById id db = some row) (next : TicketRow → Service α)
    (number : ℕ) :
    (TicketsService.assertExistsAndGet id >>= next).run (execUnder .none) (db, number) =
      (next row).run (execUnder .none) (db, number + 1) := by
  unfold TicketsService.assertExistsAndGet TicketsService.getOrThrow
  rw [Program.bind_assoc, run_select_plain, Query.eval, found]
  rfl

/-- A user that is found, without faults. -/
theorem run_findById_plain {α : Type} {id : ℕ} {db : Db} {row : UserRow}
    (found : db.users.get? id = some row) (next : UserResponse → Service α) (number : ℕ) :
    (UsersService.findById (some id) >>= next).run (execUnder .none) (db, number) =
      (next (toUserResponse row)).run (execUnder .none) (db, number + 1) := by
  have found : UsersRepository.findById (some id) db = some row := found
  unfold UsersService.findById UsersService.getOrThrow
  rw [Program.bind_assoc, Program.bind_assoc, run_select_plain, Query.eval, found]
  rfl

/-- **A comment POST that finds its ticket and its author** is committed right
before the read-back. -/
theorem run_stored {ticketId : ℕ} {dto : CreateCommentDto} {db : Db} (sound : MentionsStored db)
    (onCommitting : List ℕ → CommentRow → AuditInsert)
    (ticket : (TicketsRepository.findById ticketId db).isSome)
    (author : (db.users.get? dto.authorId).isSome) :
    ∃ row after, (stored ticketId dto onCommitting).run (execUnder .none) (db, 0) =
        (.ok row, after,
          6 + resolutions dto.content + insertions (resolvedIds dto.content db)) ∧
      ¬ SameRows db after := by
  obtain ⟨ticketRow, ticket⟩ := Option.isSome_iff_exists.mp ticket
  obtain ⟨authorRow, author⟩ := Option.isSome_iff_exists.mp author
  obtain ⟨ticketStored, -⟩ := Option.filter_eq_some_iff.mp ticket
  let ids := resolvedIds dto.content db
  let body := CommentsRepository.createWithMentions ⟨ticketId, dto.authorId, dto.content, ids⟩
    (onCommitting ids)
  let state := (db, 2 + resolutions dto.content)
  let create := ClientStatement.createdComment ticketId dto.authorId dto.content db.now
  have distinct : ids.Nodup := List.nodup_dedup _
  have existing : (ids.all fun id => (db.users.get? id).isSome) = true := all_resolvedIds _ db
  -- Every reference exists, so the transaction is committed.
  obtain ⟨after, executed, comments⟩ : ∃ after,
      transaction body db = (.ok (create db.comments.next), after) ∧
      after.comments = db.comments.insert create fun _ => rfl := by
    have closed := CommentsRepository.createWithMentions_eq
      ⟨ticketId, dto.authorId, dto.content, ids⟩ (onCommitting ids) db sound.fresh
    simp only [ticketStored, author, Option.isSome_some, Bool.and_self, if_true] at closed
    rw [if_neg (not_not.mpr distinct), if_pos existing] at closed
    exact ⟨_, closed, rfl⟩
  obtain ⟨answer, reached⟩ := transactionUnder_none body state
  rw [executed] at answer reached
  have number := CommentsRepository.createWithMentions_number _ _ state answer
  refine ⟨create db.comments.next, after, ?_, ?_⟩
  · unfold stored
    rw [run_assertExistsAndGet_plain ticket, run_findById_plain author, run_resolveMentions_plain]
    have sent : (execute (.createWithMentions ⟨ticketId, dto.authorId, dto.content, ids⟩
        (onCommitting ids))).run (execUnder .none) (db, 0 + 1 + 1 + resolutions dto.content) =
        ((transactionUnder .none body state).1.mapError .database,
          (transactionUnder .none body state).2) := by
      have start : 0 + 1 + 1 + resolutions dto.content = 2 + resolutions dto.content := rfl
      rw [start]
      rfl
    rw [sent, answer]
    refine congrArg (Prod.mk _) (Prod.ext reached ?_)
    rw [number]
    simp only [state, ids]
    omega
  · -- The new comment was not there before.
    intro same
    have keyed : ∀ id, Keyed.key (create id) = id := fun _ => rfl
    have absent := Table.get?_of_next_le (Nat.le_refl db.comments.next)
    have inserted : (db.comments.insert create keyed).get? db.comments.next =
        some (create db.comments.next) := (Table.get?_insert create keyed).trans (if_pos rfl)
    rw [← Table.get?_congr same.comments, comments, inserted] at absent
    cases absent

/-- A comment POST that does not find them is rejected. -/
theorem run_stored_error {ticketId : ℕ} {dto : CreateCommentDto} {db : Db}
    (onCommitting : List ℕ → CommentRow → AuditInsert)
    (missing : ((TicketsRepository.findById ticketId db).isSome &&
      (db.users.get? dto.authorId).isSome) = false) :
    ∃ exception after, (stored ticketId dto onCommitting).run (execUnder .none) (db, 0) =
      (.error exception, after) := by
  unfold stored
  cases ticket : TicketsRepository.findById ticketId db with
  | none =>
      unfold TicketsService.assertExistsAndGet TicketsService.getOrThrow
      rw [Program.bind_assoc, run_select_plain, Query.eval, ticket]
      exact ⟨_, _, rfl⟩
  | some ticketRow =>
      rw [run_assertExistsAndGet_plain ticket]
      have author : UsersRepository.findById (some dto.authorId) db = none := by
        rw [ticket, Option.isSome_some, Bool.true_and] at missing
        exact Option.not_isSome_iff_eq_none.mp (Bool.eq_false_iff.mp missing)
      unfold UsersService.findById UsersService.getOrThrow
      rw [Program.bind_assoc, Program.bind_assoc, run_select_plain, Query.eval, author]
      exact ⟨_, _, rfl⟩

/-- A comment that is found, without faults. -/
theorem run_getOrThrow_plain {α : Type} {id : ℕ} {db : Db} {row : CommentRow}
    (found : db.comments.get? id = some row) (next : CommentRow → Service α) (number : ℕ) :
    (getOrThrow id >>= next).run (execUnder .none) (db, number) =
      (next row).run (execUnder .none) (db, number + 1) := by
  have found : CommentsRepository.findById id db = some row := found
  unfold getOrThrow
  rw [Program.bind_assoc, run_select_plain, Query.eval, found]
  rfl

omit [Postgres] in
theorem changed_strict (ticketId commentId : ℕ) (dto : UpdateCommentDto) (message : String)
    (onCommitting : CommentRow → List ℕ → CommentRow → AuditInsert) :
    (changed ticketId commentId dto message onCommitting).Strict StatementFails := by
  unfold changed getOrThrow
  split_ifs
  · trivial
  refine Program.Strict.bind ((select_strict _).bind ?_) fun existing => ?_
  · rintro (_ | row) <;> trivial
  split_ifs
  · trivial
  · exact (resolveMentions_strict _).bind fun ids => query_strict _

theorem changed_harmless (ticketId commentId : ℕ) (dto : UpdateCommentDto) (message : String)
    (onCommitting : CommentRow → List ℕ → CommentRow → AuditInsert) :
    Harmless (changed ticketId commentId dto message onCommitting) := by
  unfold changed
  split_ifs
  · exact .of_reads trivial
  apply Harmless.first (getOrThrow_reads _)
  intro existing
  split_ifs
  · exact .of_reads trivial
  apply Harmless.first (resolveMentions_reads _)
  intro ids
  exact Harmless.write (fun _ _ => rfl) fun _ _ => trivial

/-- **A comment PATCH with the version of its comment** is committed right before
the read-back. -/
theorem run_changed {ticketId commentId : ℕ} {dto : UpdateCommentDto} {db : Db}
    {existing : CommentRow} (message : String)
    (onCommitting : CommentRow → List ℕ → CommentRow → AuditInsert)
    (stored : db.comments.get? commentId = some existing) (same : existing.ticketId = ticketId)
    (version : dto.version.toOption = some existing.version)
    (successor : versionOverflows existing.version = false) :
    ∃ row after, (changed ticketId commentId dto message onCommitting).run (execUnder .none)
        (db, 0) = (.ok (some row), after,
          6 + resolutions dto.content + insertions (resolvedIds dto.content db)) ∧
      ¬ SameRows db after := by
  let ids := resolvedIds dto.content db
  let body := CommentsRepository.updateContentAndMentions commentId dto.version.toOption
    dto.content ids (onCommitting existing ids)
  let state := (db, 1 + resolutions dto.content)
  let new :=
    { existing with content := dto.content, version := existing.version + 1, updatedAt := db.now }
  have distinct : ids.Nodup := List.nodup_dedup _
  have all : (ids.all fun id => (db.users.get? id).isSome) = true := all_resolvedIds _ db
  -- The version is current, so the transaction is committed.
  obtain ⟨after, executed, comments⟩ : ∃ after,
      transaction body db = (.ok (some new), after) ∧ after.comments = db.comments.set new := by
    have closed := CommentsRepository.updateContentAndMentions_eq commentId dto.version.toOption
      dto.content ids (onCommitting existing ids) db
    rw [stored, Option.filter_some, version, if_pos (by simp)] at closed
    simp only at closed
    rw [successor, if_neg Bool.false_ne_true, if_neg (not_not.mpr distinct), if_pos all] at closed
    exact ⟨_, version ▸ closed, rfl⟩
  obtain ⟨answer, reached⟩ := transactionUnder_none body state
  rw [executed] at answer reached
  have number := CommentsRepository.updateContentAndMentions_number _ _ _ _ _ state answer
  refine ⟨new, after, ?_, ?_⟩
  · have defined : dto.version.isDefined = true := by
      cases supplied : dto.version with
      | undefined =>
          rw [supplied] at version
          cases version
      | null | value => rfl
    unfold changed
    rw [defined, Bool.not_true, if_neg Bool.false_ne_true, run_getOrThrow_plain stored,
      if_neg (not_not.mpr same), run_resolveMentions_plain]
    have sent : (execute (.updateContentAndMentions commentId dto.version.toOption dto.content ids
        (onCommitting existing ids))).run (execUnder .none) (db, 0 + 1 + resolutions dto.content) =
        ((transactionUnder .none body state).1.mapError .database,
          (transactionUnder .none body state).2) := by
      have start : 0 + 1 + resolutions dto.content = 1 + resolutions dto.content := rfl
      rw [start]
      rfl
    rw [sent, answer]
    refine congrArg (Prod.mk _) (Prod.ext reached ?_)
    rw [number]
    simp only [state, ids]
    omega
  · -- The version of the comment has gone up.
    intro unchanged
    have key : Keyed.key existing = commentId := Table.key_of_get? stored
    have found : (db.comments.set new).get? commentId = some existing := by
      rw [← comments, Table.get?_congr unchanged.comments, stored]
    rw [Table.get?_set, if_pos (show commentId = Keyed.key new from key.symm), stored] at found
    have raised := congrArg CommentRow.version (Option.some.inj found)
    exact absurd raised (Nat.succ_ne_self _)

/-- A comment PATCH without them is rejected, or misses. -/
theorem run_changed_none {ticketId commentId : ℕ} {dto : UpdateCommentDto} {db : Db}
    (message : String) (onCommitting : CommentRow → List ℕ → CommentRow → AuditInsert)
    (missing : ∀ row, db.comments.get? commentId = some row → row.ticketId = ticketId →
      dto.version.toOption = some row.version → versionOverflows row.version = true)
    {found : Option CommentRow} {after : Db} {number : ℕ}
    (ran : (changed ticketId commentId dto message onCommitting).run (execUnder .none) (db, 0) =
      (.ok found, after, number)) :
    after = db := by
  unfold changed at ran
  split_ifs at ran
  · cases ran
  cases stored : db.comments.get? commentId with
  | none =>
      have absent : CommentsRepository.findById commentId db = none := stored
      unfold getOrThrow at ran
      rw [Program.bind_assoc, run_select_plain, Query.eval, absent] at ran
      cases ran
  | some existing =>
      rw [run_getOrThrow_plain stored] at ran
      split_ifs at ran with elsewhere
      · cases ran
      rw [run_resolveMentions_plain] at ran
      let ids := resolvedIds dto.content db
      let body := CommentsRepository.updateContentAndMentions commentId dto.version.toOption
        dto.content ids (onCommitting existing ids)
      have reached := (transactionUnder_none body (db, 0 + 1 + resolutions dto.content)).2
      -- The stored version is another one or cannot be raised: the transaction misses or fails.
      have missed : (transaction body db).2 = db := by
        rw [CommentsRepository.updateContentAndMentions_eq, stored, Option.filter_some]
        by_cases version : dto.version.toOption = some existing.version
        · have last := missing existing stored (not_not.mp elsewhere) version
          rw [if_pos (decide_eq_true version)]
          simp only
          rw [if_pos last]
        · rw [if_neg (by simpa using version)]
      exact (congrArg (fun ran => ran.2.1) ran).symm.trans (reached.trans missed)

end CommentsService

/-- **A comment POST**: only a failing read-back is reported too late. -/
theorem createComment_faultless_iff {db : Db} (sound : MentionsStored db) (ticketId : ℕ)
    (dto : CreateCommentDto) (performedBy position : ℕ) (error : PgError) :
    Faultless position error (CommentsService.create ticketId dto performedBy) db ↔
      (Request.createComment ticketId dto performedBy).readBack db ≠ some position := by
  obtain ⟨onCommitting, split⟩ := CommentsService.create_eq ticketId dto performedBy
  have strict := CommentsService.stored_strict ticketId dto onCommitting
  have harmless := CommentsService.stored_harmless ticketId dto onCommitting
  rw [split, Request.readBack]
  split_ifs with found
  · obtain ⟨ticket, author⟩ := (Bool.and_eq_true _ _).mp found
    obtain ⟨row, after, plain, stored⟩ :=
      CommentsService.run_stored sound onCommitting ticket author
    rw [ne_eq, Option.some.injEq]
    exact Faultless.followed_iff strict harmless CommentsService.toResponse_reads plain stored
      (CommentsService.run_toResponse row after _)
  · refine iff_of_true ?_ (by simp)
    obtain ⟨exception, after, rejected⟩ :=
      CommentsService.run_stored_error onCommitting (Bool.eq_false_iff.mpr found)
    refine .followed strict harmless CommentsService.toResponse_reads ?_
    intro row after' number ran
    cases rejected.symm.trans ran

/-- **A comment PATCH**: only a failing read-back is reported too late. -/
theorem updateComment_faultless_iff {db : Db} (ticketId commentId : ℕ) (dto : UpdateCommentDto)
    (performedBy position : ℕ) (error : PgError) :
    Faultless position error (CommentsService.update ticketId commentId dto performedBy) db ↔
      (Request.updateComment ticketId commentId dto performedBy).readBack db ≠ some position := by
  obtain ⟨message, onCommitting, split⟩ :=
    CommentsService.update_eq ticketId commentId dto performedBy
  have strict := CommentsService.changed_strict ticketId commentId dto message onCommitting
  have harmless := CommentsService.changed_harmless ticketId commentId dto message onCommitting
  have reads : ∀ found, (CommentsService.finishUpdate commentId dto found).Only IsRead := by
    rintro (_ | updated)
    · exact (read_only _).bind fun _ => trivial
    · exact CommentsService.toResponse_reads updated
  rw [split]
  -- Only a PATCH with the version of its comment gets to its read-back, if that can be raised.
  by_cases due : ∃ row, db.comments.get? commentId = some row ∧ row.ticketId = ticketId ∧
      dto.version.toOption = some row.version ∧ versionOverflows row.version = false
  · obtain ⟨existing, stored, same, version, successor⟩ := due
    obtain ⟨row, after, plain, changed⟩ :=
      CommentsService.run_changed message onCommitting stored same version successor
    have readBack : (Request.updateComment ticketId commentId dto performedBy).readBack db =
        some (6 + resolutions dto.content + insertions (resolvedIds dto.content db)) := by
      simp [Request.readBack, stored, same, version, successor]
    rw [readBack, ne_eq, Option.some.injEq]
    exact Faultless.followed_iff strict harmless reads plain changed
      (CommentsService.run_toResponse row after _)
  · have missing : ∀ row, db.comments.get? commentId = some row → row.ticketId = ticketId →
        dto.version.toOption = some row.version → versionOverflows row.version = true := by
      intro row stored same version
      by_contra successor
      exact due ⟨row, stored, same, version, Bool.eq_false_iff.mpr successor⟩
    have readBack : (Request.updateComment ticketId commentId dto performedBy).readBack db =
        none := by
      rw [Request.readBack]
      cases stored : db.comments.get? commentId with
      | none => rfl
      | some row => simpa using missing row stored
    rw [readBack]
    refine iff_of_true ?_ (by simp)
    refine .followed strict harmless reads ?_
    intro found after number ran
    rw [CommentsService.run_changed_none message onCommitting missing ran]
    exact .inl (.refl _)

end Comments

/-! ### The escalation cycle -/

namespace EscalationService

/-- A number of the scanned tickets has been written. -/
structure Wrote (overdue : List TicketRow) (db : Db) (written : ℕ) (after : Db) : Prop where
  nothing : written = 0 → after = db
  changed : written ≠ 0 → ∃ ticket ∈ overdue, after.tickets.get? ticket.id ≠ some ticket
  elsewhere : ∀ id, (∀ ticket ∈ overdue, ticket.id ≠ id) →
    after.tickets.get? id = db.tickets.get? id

namespace Wrote

variable {overdue : List TicketRow} {ticket : TicketRow} {db middle after : Db} {written : ℕ}

theorem start (overdue : List TicketRow) (db : Db) : Wrote overdue db 0 db :=
  ⟨fun _ => rfl, fun later => absurd rfl later, fun _ _ => rfl⟩

/-- A ticket that is skipped. -/
theorem skip (wrote : Wrote overdue db written after) :
    Wrote (ticket :: overdue) db written after where
  nothing := wrote.nothing
  changed later :=
    have ⟨other, member, changed⟩ := wrote.changed later
    ⟨other, List.mem_cons_of_mem _ member, changed⟩
  elsewhere id others :=
    wrote.elsewhere id fun other member => others other (List.mem_cons_of_mem _ member)

/-- A ticket that is written before the others. -/
theorem first {change : EscalationChange} (decided : decision ticket = some change)
    (fresh : ∀ other ∈ overdue, other.id ≠ ticket.id)
    (stored : db.tickets.get? ticket.id = some ticket)
    (tickets : middle.tickets = (escalated db ticket).tickets)
    (wrote : Wrote overdue middle written after) :
    Wrote (ticket :: overdue) db (written + 1) after where
  nothing zero := by cases zero
  changed _ := by
    refine ⟨ticket, List.mem_cons_self, ?_⟩
    rw [wrote.elsewhere ticket.id fresh, tickets, get?_escalated stored, if_pos rfl,
      decidedRow, decided]
    intro same
    have raised := congrArg TicketRow.version (Option.some.inj same)
    cases change <;> exact absurd raised (Nat.succ_ne_self _)
  elsewhere id others := by
    have different : id ≠ ticket.id := (others ticket List.mem_cons_self).symm
    rw [wrote.elsewhere id fun other member => others other (List.mem_cons_of_mem _ member),
      tickets, get?_escalated stored, if_neg different]

end Wrote

end EscalationService

section Cycle

variable [Postgres] {position : ℕ} {error : PgError}

variable (position error) in
/-- An entry is logged unless its insert is the statement that fails. -/
private theorem run_log_single {α : Type} (input : AuditInsert) (next : Unit → Service α) (db : Db)
    (number : ℕ) : ∃ after,
      (AuditService.log input >>= next).run (execUnder (.single position error)) (db, number) =
        (next ()).run (execUnder (.single position error)) (after, number + 1) ∧
      after.tickets = db.tickets := by
  have sent : execUnder (.single position error) (.command (.insertAudit input)) (db, number) =
      faulty exec (Plan.single position error).statements (.command (.insertAudit input))
        (db, number) := rfl
  simp only [AuditService.log, execute, query, Program.tryCatch_eq, Program.tryCatch,
    Program.call_bind, Program.run_call, sent, faulty, Plan.statements, Plan.single]
  by_cases here : number = position
  · rw [if_pos here]
    exact ⟨db, rfl, rfl⟩
  · rw [if_neg here]
    exact ⟨(AuditRepository.insert input db).2, rfl, rfl⟩

namespace EscalationService

/-- A cycle whose write fails stops there. -/
theorem escalate_met {ticket : TicketRow} {change : EscalationChange}
    (decided : decision ticket = some change) (summary : EscalationSummary) (db : Db) :
    (escalate summary ticket).run (execUnder (.single position error)) (db, position) =
      (.error (.database error), db, position + 1) := by
  have sent : execUnder (.single position error) (.command (.applyEscalation ticket.id change))
      (db, position) = faulty exec (Plan.single position error).statements
        (.command (.applyEscalation ticket.id change)) (db, position) := rfl
  unfold escalate
  rw [decided]
  simp only [execute, query, Program.call_bind, Program.run_call, sent, faulty, Plan.statements,
    Plan.single, if_true]
  rfl

variable (error) in
/-- So does one that gets to a ticket whose version cannot be raised. -/
theorem escalate_stopped {ticket : TicketRow} {db : Db} {number : ℕ}
    (found : TicketsRepository.findById ticket.id db = some ticket)
    (unresolved : ticket.status ≠ .done) (stopped : stopsAt ticket = true)
    (other : number ≠ position) (summary : EscalationSummary) :
    (escalate summary ticket).run (execUnder (.single position error)) (db, number) =
      (.error (.database .numericValueOutOfRange), db, number + 1) := by
  obtain ⟨decides, overflows⟩ := Bool.and_eq_true_iff.mp stopped
  obtain ⟨change, decided⟩ := Option.isSome_iff_exists.mp decides
  have sent : execUnder (.single position error) (.command (.applyEscalation ticket.id change))
      (db, number) = faulty exec (Plan.single position error).statements
        (.command (.applyEscalation ticket.id change)) (db, number) := rfl
  have executed := applyEscalation_run found unresolved change
  rw [if_pos overflows] at executed
  unfold escalate
  rw [decided]
  simp only [execute, query, Program.call_bind, Program.run_call, sent, faulty, Plan.statements,
    Plan.single, if_neg other, Option.map_none, exec_command, Command.exec]
  rw [executed]
  rfl

variable (error) in
/-- Otherwise the ticket is written, and logged if that does not fail. -/
theorem escalate_spared {ticket : TicketRow} {change : EscalationChange} {db : Db} {number : ℕ}
    (decided : decision ticket = some change)
    (found : TicketsRepository.findById ticket.id db = some ticket)
    (unresolved : ticket.status ≠ .done) (onward : stopsAt ticket = false)
    (other : number ≠ position) (summary : EscalationSummary) :
    ∃ summary' after, (escalate summary ticket).run (execUnder (.single position error))
        (db, number) = (.ok summary', after, number + 2) ∧
      after.tickets = (escalated db ticket).tickets := by
  have sent : execUnder (.single position error) (.command (.applyEscalation ticket.id change))
      (db, number) = faulty exec (Plan.single position error).statements
        (.command (.applyEscalation ticket.id change)) (db, number) := rfl
  have executed := applyEscalation_run found unresolved change
  rw [stopsAt, decided, Option.isSome_some, Bool.true_and] at onward
  rw [onward, if_neg Bool.false_ne_true] at executed
  unfold escalate escalated
  rw [decided]
  simp only [execute, query, Program.call_bind, Program.run_call, sent, faulty, Plan.statements,
    Plan.single, if_neg other, Option.map_none, exec_command, Command.exec]
  rw [executed]
  let new := { TicketsRepository.escalatedRow change ticket with updatedAt := db.now }
  -- Behind the UPDATE only the audit entry can fail, and that is caught.
  obtain ⟨after, logged, tickets⟩ :=
    run_log_single position error (escalationEntry ticket change)
      (fun _ => .done (.ok (EscalationSummary.count summary change)))
      { db with tickets := db.tickets.set new } (number + 1)
  exact ⟨_, after, logged, tickets⟩

/-- The scanned tickets that a cycle decides to write. -/
def isDecided (ticket : TicketRow) : Bool := (decision ticket).isSome

variable (position error) in
/-- **The loop of a cycle under one fault.** It is rejected when one of its writes
fails, and then the writes before it are stored. Otherwise it makes all of its
writes, and it is rejected if it stops at a ticket. -/
theorem escalateAll_single {overdue : List TicketRow} {db : Db} (number : ℕ)
    (summary : EscalationSummary) (distinct : (overdue.map (·.id)).Nodup)
    (scanned : ∀ ticket ∈ overdue, TicketsRepository.findById ticket.id db = some ticket ∧
      ticket.status ≠ .done) {writes : ℕ}
    (counted : (overdue.takeWhile fun ticket => !stopsAt ticket).countP isDecided = writes) :
    (∃ written < writes, position = number + 2 * written ∧
      ∃ exception after, (escalateAll summary overdue).run (execUnder (.single position error))
        (db, number) = (.error exception, after) ∧ Wrote overdue db written after.1) ∨
    (∀ written < writes, position ≠ number + 2 * written) ∧
      ∃ result after, (escalateAll summary overdue).run (execUnder (.single position error))
          (db, number) = (result, after) ∧
        if overdue.any stopsAt then
          ∃ exception, result = .error exception ∧ Wrote overdue db writes after.1
        else ∃ value, result = .ok value := by
  induction overdue generalizing db number summary writes with
  | nil =>
      cases counted
      exact .inr ⟨fun written none => absurd none (Nat.not_lt_zero _), _, _, rfl, summary, rfl⟩
  | cons ticket overdue ih =>
      obtain ⟨fresh, distinct⟩ := List.nodup_cons.mp distinct
      obtain ⟨found, unresolved⟩ := scanned ticket List.mem_cons_self
      have remaining : ∀ other ∈ overdue, TicketsRepository.findById other.id db = some other ∧
          other.status ≠ .done :=
        fun other member => scanned other (List.mem_cons_of_mem _ member)
      rw [escalateAll, Program.run_bind, List.any_cons]
      cases stopped : stopsAt ticket with
      | true =>
          -- The cycle ends here, whether it is this write that fails or not.
          have nothing : writes = 0 := by
            rw [← counted, List.takeWhile_cons_of_neg (by simp [stopped])]
            rfl
          subst nothing
          refine .inr ⟨fun written none => absurd none (Nat.not_lt_zero _), ?_⟩
          by_cases here : number = position
          · subst here
            obtain ⟨change, decided⟩ :=
              Option.isSome_iff_exists.mp (Bool.and_eq_true_iff.mp stopped).1
            rw [escalate_met decided]
            exact ⟨_, _, rfl, _, rfl, .start _ db⟩
          · rw [escalate_stopped error found unresolved stopped here]
            exact ⟨_, _, rfl, _, rfl, .start _ db⟩
      | false =>
          rw [List.takeWhile_cons_of_pos (by simp [stopped])] at counted
          cases decided : decision ticket with
          | none =>
              have skipped : isDecided ticket = false := by rw [isDecided, decided]; rfl
              have first : (escalate summary ticket).run (execUnder (.single position error))
                  (db, number) =
                    (.ok { summary with skipped := summary.skipped + 1 }, db, number) := by
                rw [escalate, decided]
                rfl
              -- Nothing is sent for this ticket, so the positions do not move.
              rw [List.countP_cons_of_neg (by simp [skipped])] at counted
              rw [first, Bool.false_or]
              rcases ih number { summary with skipped := summary.skipped + 1 } distinct remaining
                counted with
                ⟨written, fewer, met, exception, after, rejected, wrote⟩ |
                  ⟨spared, result, after, ran, outcome⟩
              · exact .inl ⟨written, fewer, met, exception, after, rejected, wrote.skip⟩
              · refine .inr ⟨spared, result, after, ran, ?_⟩
                split_ifs at outcome ⊢
                · obtain ⟨exception, rejected, wrote⟩ := outcome
                  exact ⟨exception, rejected, wrote.skip⟩
                · exact outcome
          | some change =>
              have writes_ : isDecided ticket = true := by rw [isDecided, decided]; rfl
              rw [List.countP_cons_of_pos writes_] at counted
              subst counted
              by_cases here : number = position
              · -- The write of this ticket fails.
                subst here
                rw [escalate_met decided]
                exact .inl ⟨0, Nat.zero_lt_succ _, rfl, _, _, rfl, .start _ db⟩
              obtain ⟨summary', middle, first, tickets⟩ :=
                escalate_spared error decided found unresolved stopped here summary
              have others : ∀ other ∈ overdue, other.id ≠ ticket.id := by
                intro other member same
                exact fresh (List.mem_map.mpr ⟨other, member, same⟩)
              have stored := (Option.filter_eq_some_iff.mp found).1
              -- A write and its entry take two positions; the other tickets are as scanned.
              have kept : ∀ other ∈ overdue,
                  TicketsRepository.findById other.id middle = some other ∧
                    other.status ≠ .done := by
                intro other member
                obtain ⟨foundOther, open_⟩ := remaining other member
                refine ⟨?_, open_⟩
                rw [TicketsRepository.findById, tickets]
                exact findById_escalated (others other member) foundOther
              rw [first, Bool.false_or]
              rcases ih (number + 2) summary' distinct kept rfl with
                ⟨written, fewer, met, exception, after, rejected, wrote⟩ |
                  ⟨spared, result, after, ran, outcome⟩
              · exact .inl ⟨written + 1, Nat.succ_lt_succ fewer, by omega, exception, after,
                  rejected, wrote.first decided others stored tickets⟩
              · refine .inr ⟨?_, result, after, ran, ?_⟩
                · intro written fewer
                  cases written with
                  | zero => exact fun same => here same.symm
                  | succ written =>
                      have := spared written (Nat.lt_of_succ_lt_succ fewer)
                      omega
                · split_ifs at outcome ⊢
                  · obtain ⟨exception, rejected, wrote⟩ := outcome
                    exact ⟨exception, rejected, wrote.first decided others stored tickets⟩
                  · exact outcome

/-- The faults that a cycle tells of too late: those at a write, except the
first, and every other one if it stops after a write. -/
theorem escalate_tellsLate_iff {db : Db} : Request.escalate.tellsLate db position = true ↔
    position ≠ 0 ∧ ((∃ written < writes db, position = 1 + 2 * written ∧ written ≠ 0) ∨
      (∀ written < writes db, position ≠ 1 + 2 * written) ∧ stops db = true ∧ writes db ≠ 0) := by
  have here : (position % 2 = 1 ∧ position < 2 * writes db) ↔
      ∃ written < writes db, position = 1 + 2 * written := by
    constructor
    · rintro ⟨odd, fewer⟩
      exact ⟨position / 2, by omega, by omega⟩
    · rintro ⟨written, fewer, rfl⟩
      omega
  simp only [Request.tellsLate, Bool.and_eq_true, decide_eq_true_eq]
  refine and_congr_right fun _ => ?_
  split_ifs with atWrite
  · obtain ⟨written, fewer, same⟩ := here.mp atWrite
    constructor
    · intro later
      have later := of_decide_eq_true later
      exact .inl ⟨written, fewer, same, by omega⟩
    · rintro (⟨other, _, same', later⟩ | ⟨spared, -⟩)
      · exact decide_eq_true (by omega)
      · exact absurd same (spared written fewer)
  · have spared : ∀ written < writes db, position ≠ 1 + 2 * written :=
      fun written fewer same => atWrite (here.mpr ⟨written, fewer, same⟩)
    simp only [Bool.and_eq_true, decide_eq_true_eq]
    constructor
    · exact fun stopped => .inr ⟨spared, stopped⟩
    · rintro (⟨written, fewer, same, -⟩ | ⟨-, stopped⟩)
      · exact absurd same (spared written fewer)
      · exact stopped

/-- A cycle whose scan fails. -/
theorem runOnce_met (db : Db) : runOnce.run (execUnder (.single 0 error)) (db, 0) =
    (.error (.database error), db, 1) := by
  have sent : execUnder (.single 0 error) (.select .findOverdueUnresolved) (db, 0) =
      faulty exec (Plan.single 0 error).statements (.select .findOverdueUnresolved) (db, 0) := rfl
  simp only [runOnce, select, query, Program.call_bind, Program.run_call, sent, faulty,
    Plan.statements, Plan.single, if_true]
  rfl

/-- A cycle whose scan does not fail. -/
theorem runOnce_spared (later : position ≠ 0) (db : Db) :
    runOnce.run (execUnder (.single position error)) (db, 0) =
      (escalateAll ⟨(TicketsRepository.findOverdueUnresolved db).length, 0, 0, 0⟩
        (TicketsRepository.findOverdueUnresolved db)).run (execUnder (.single position error))
        (db, 1) := by
  have sent : execUnder (.single position error) (.select .findOverdueUnresolved) (db, 0) =
      faulty exec (Plan.single position error).statements (.select .findOverdueUnresolved)
        (db, 0) := rfl
  simp only [runOnce, select, query, Program.call_bind, Program.run_call, sent, faulty,
    Plan.statements, Plan.single, if_neg (Ne.symm later)]
  rfl

omit [Postgres] in
/-- What has been written is seen unless nothing has. -/
theorem Wrote.sameRows_iff {db after : Db} {written : ℕ}
    (wrote : Wrote (TicketsRepository.findOverdueUnresolved db) db written after) :
    SameRows db after ↔ written = 0 := by
  constructor
  · intro same
    by_contra later
    obtain ⟨ticket, member, changed⟩ := wrote.changed later
    have stored : db.tickets.get? ticket.id = some ticket :=
      Table.get?_key (List.mem_filter.mp member).1
    exact changed ((Table.get?_congr same.tickets ticket.id).trans stored)
  · intro nothing
    rw [wrote.nothing nothing]
    exact .refl db

/-- **A cycle** tells too late of every write but its first, and when it stops
after a write. -/
theorem escalate_faultless_iff (db : Db) :
    Faultless position error runOnce db ↔
      Request.escalate.tellsLate db position = false := by
  have distinct : ((TicketsRepository.findOverdueUnresolved db).map (·.id)).Nodup :=
    db.tickets.nodup_keys.sublist (List.filter_sublist.map _)
  have scanned : ∀ ticket ∈ TicketsRepository.findOverdueUnresolved db,
      TicketsRepository.findById ticket.id db = some ticket ∧ ticket.status ≠ .done :=
    fun ticket member => findById_of_scanned member
  rw [← Bool.not_eq_true, escalate_tellsLate_iff]
  by_cases first : position = 0
  · subst first
    apply iff_of_true
    · intro exception after ran
      obtain ⟨-, rfl⟩ := Prod.mk.inj ((runOnce_met db).symm.trans ran)
      exact .refl _
    · exact fun late => late.1 rfl
  rw [Faultless, runOnce_spared first]
  rcases escalateAll_single position error 1
    ⟨(TicketsRepository.findOverdueUnresolved db).length, 0, 0, 0⟩ distinct scanned
    (show _ = writes db from rfl) with
    ⟨written, fewer, met, exception, after, rejected, wrote⟩ |
      ⟨spared, result, after, ran, outcome⟩
  · rw [rejected_iff rejected, wrote.sameRows_iff]
    constructor
    · rintro rfl ⟨-, ⟨other, _, same, later⟩ | ⟨spared, -⟩⟩
      · omega
      · exact spared 0 fewer met
    · intro early
      by_contra later
      exact early ⟨first, .inl ⟨written, fewer, met, later⟩⟩
  · split_ifs at outcome with stopped
    · obtain ⟨exception, rfl, wrote⟩ := outcome
      rw [rejected_iff ran, wrote.sameRows_iff]
      constructor
      · rintro nothing ⟨-, ⟨other, fewer, same, -⟩ | ⟨-, -, written⟩⟩
        · exact spared other fewer same
        · exact written nothing
      · intro early
        by_contra written
        exact early ⟨first, .inr ⟨spared, stopped, written⟩⟩
    · obtain ⟨value, rfl⟩ := outcome
      refine iff_of_true ?_ ?_
      · intro exception after' rejected
        cases ran.symm.trans rejected
      · rintro ⟨-, ⟨written, fewer, met, -⟩ | ⟨-, stops, -⟩⟩
        · exact spared written fewer met
        · exact stopped stops

end EscalationService

end Cycle

/-! ### All requests -/

section Requests

variable [Postgres] [Bcrypt] [Unicode]

omit [Bcrypt] [Unicode] in
/-- What a program returns may be wrapped. -/
theorem faultless_map {α β : Type} {position : ℕ} {error : PgError} (wrap : α → β)
    (p : Service α) (db : Db) :
    Faultless position error (wrap <$> p) db ↔ Faultless position error p db := by
  unfold Faultless
  rw [Program.run_map]
  generalize p.run (execUnder (.single position error)) (db, 0) = reached
  obtain ⟨result, after⟩ := reached
  cases result with
  | ok value => simp [Except.map]
  | error thrown => simp [Except.map]

omit [Bcrypt] [Unicode] in
/-- The failures of a shaped request are never told too late. -/
theorem tellsLate_of_isShaped {request : Request} (shaped : request.isShaped = true) (db : Db)
    (position : ℕ) : request.tellsLate db position = false := by
  cases request with
  | escalate | createComment | updateComment => cases shaped
  | _ => rfl

/-- One request, in a database whose mentions refer to stored comments and
users. -/
theorem faultless_iff {db : Db} (sound : MentionsStored db) (request : Request) (fuel position : ℕ)
    (error : PgError) : Faultless position error (request.program fuel) db ↔
      request.tellsLate db position = false := by
  cases shaped : request.isShaped with
  | true =>
      obtain ⟨α, p, wrap, program, shape⟩ := Request.shape shaped fuel
      rw [program, faultless_map]
      exact iff_of_true (shape.harmless.faultless db) (tellsLate_of_isShaped shaped db position)
  | false =>
      cases request with
      | escalate =>
          rw [Request.program, faultless_map]
          exact EscalationService.escalate_faultless_iff db
      | createComment ticketId dto performedBy =>
          rw [Request.program, faultless_map, createComment_faultless_iff sound]
          exact decide_eq_false_iff_not.symm
      | updateComment ticketId commentId dto performedBy =>
          rw [Request.program, faultless_map, updateComment_faultless_iff]
          exact decide_eq_false_iff_not.symm
      | _ => cases shaped

/-- **An error means that nothing was stored**, whichever statement of a request
fails, unless it is one whose failure is reported too late. -/
theorem errors_store_nothing (inputs : List Input) (request : Request) (position : ℕ)
    (error : PgError) :
    let db := serveAll inputs Db.empty
    (∀ exception after number, serveUnder (.single position error) request db =
      (.error exception, after, number) → SameRows db after) ↔
        request.tellsLate db position = false := by
  intro db
  rw [← faultless_iff (mentionsStored_serveAll inputs) request (walkFuel db) position error]
  constructor
  · intro stored exception after ran
    exact stored exception after.1 after.2 ran
  · intro faultless exception after number ran
    exact faultless exception (after, number) ran

end Requests

/-! ### A comment that is stored and denied -/

section Denied

open Sample

/-- A comment on the first of two tickets. -/
def Sample.comment : Request := .createComment 1 ⟨1, "hello"⟩ 1

/-- The read of the mentions fails: the client gets an error, the comment and
its entry stay. -/
theorem comment_stored_and_denied :
    ¬ (∀ exception after number,
      serveUnder (.single 6 .connectionFailure) Sample.comment twoTickets =
        (.error exception, after, number) → SameRows twoTickets after) := by
  intro stored
  have rejected : (serveUnder (.single 6 .connectionFailure) Sample.comment twoTickets).1 =
      .error (.database .connectionFailure) := by decide +kernel
  have grown : (serveUnder (.single 6 .connectionFailure) Sample.comment
      twoTickets).2.1.comments.rows.length ≠ twoTickets.comments.rows.length := by decide +kernel
  have same := stored _ _ _ (Prod.ext rejected rfl)
  exact grown (congrArg List.length same.comments)

end Denied

end IssueFlow
