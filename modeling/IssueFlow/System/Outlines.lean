import IssueFlow.System.Evidence
import IssueFlow.System.Writes

/-!
# Outlines of requests

Every request keeps to `Sends` and `Ends`, whatever happens between its
statements. The requests that send no guarded write come first; they are only
inspected for the statements they contain.

## Main results

* `Request.outline`, `System.outlined` — what requests send and how they end
-/

namespace IssueFlow

open Store Semantics JavaScript

variable [Postgres]

/-! ### Requests without guarded writes -/

/-- A statement that needs no evidence. -/
def Unguarded : Statement → Prop
  | .select _ => True
  | .command write => write.isGuarded = false

section Unguarded

omit [Postgres]

/-- A request whose writes are all unguarded. -/
theorem only_unguarded {α : Type} {allowed : Command → Prop} {p : Service α}
    (only : p.Only (Writing allowed))
    (unguarded : ∀ write, allowed write → write.isGuarded = false) : p.Only Unguarded := by
  refine only.mono fun statement holds => ?_
  cases statement with
  | select read => trivial
  | command write => exact unguarded write holds

theorem Logs.unguarded {action : AuditAction} {entityType : AuditEntity} {write : Command}
    (logged : Logs action entityType write) (other : action ≠ .priorityEscalated) :
    write.isGuarded = false := by
  obtain ⟨input, rfl, rfl, -⟩ := logged
  simp [Command.isGuarded, other]

theorem only_log {input : AuditInsert} (action : input.action ≠ .priorityEscalated) :
    (AuditService.log input).Only Unguarded :=
  only_unguarded (writing_log (logs input)) fun _ logged => logged.unguarded action

end Unguarded

theorem Unguarded.sends {request : Request} {events : History} {statement : Statement}
    (unguarded : Unguarded statement) : Sends request events statement := by
  cases statement with
  | select read => exact .read
  | command write => exact .other unguarded

/-! ### Reads before a write -/

/-- A part of a request that only reads, and what follows it. -/
theorem outline_reads {α β : Type} {events : History} {request : Request}
    {ends : History → Except Exception β → Prop} (known : History → Prop) {p : Service α}
    {next : α → Service β} (only : p.Only IsRead)
    (keeps : ∀ events read db, known events → known (⟨.select read, db⟩ :: events))
    (start : known events)
    (rest : ∀ events value, known events →
      (next value).Outline exec (Sends request) ends events)
    (fails : ∀ events exception, known events → ends events (.error exception)) :
    (p >>= next).Outline exec (Sends request) ends events := by
  refine only.outline_bind known ?_ start rest fails
  rintro events op holds ⟨read, rfl⟩
  exact ⟨.read, fun db => keeps events read db holds⟩

/-! ### Ticket PATCHes -/

namespace TicketsService

variable {id performedBy : ℕ} {dto : UpdateTicketDto} {events : History}

/-- The ticket a request starts from. -/
theorem outline_getOrThrow {β : Type} {sends : History → Statement → Prop}
    {ends : History → Except Exception β → Prop} (next : TicketRow → Service β) :
    (getOrThrow id >>= next).Outline exec sends ends events ↔
      sends events (.select (.findTicketById id)) ∧ ∀ db : Db,
        match TicketsRepository.findById id db with
        | some row =>
            (next row).Outline exec sends ends (⟨.select (.findTicketById id), db⟩ :: events)
        | none => ends (⟨.select (.findTicketById id), db⟩ :: events)
            (.error (.http .notFound s!"Ticket {id} not found")) := by
  refine and_congr Iff.rfl (forall_congr' fun db => ?_)
  simp only [exec_select, Query.eval]
  cases TicketsRepository.findById id db <;> rfl

/-- The versioned UPDATE and what follows it: it has changed nothing, or it has
written the ticket and answers with the row. -/
theorem outline_updateWithVersionCheck {β : Type} {sends : History → Statement → Prop}
    {ends : History → Except Exception β → Prop} {version : Option ℕ} {input : TicketUpdate}
    {resetOverdueFlag : Bool} {next : Option TicketRow → Service β}
    (sent : sends events (.command (.updateWithVersionCheck id version input resetOverdueFlag)))
    (missed : ∀ event, (exec event.op event.state).2 = event.state →
      (next none).Outline exec sends ends (event :: events))
    (failed : ∀ event exception, (exec event.op event.state).2 = event.state →
      ends (event :: events) (.error exception))
    (wrote : ∀ event row, IsTicketPatch id version event →
      (next (some row)).Outline exec sends ends (event :: events)) :
    (execute (.updateWithVersionCheck id version input resetOverdueFlag) >>= next).Outline exec
      sends ends events := by
  refine (outline_execute _ _).mpr ⟨sent, fun db => ?_⟩
  simp only [Command.exec]
  rcases updateWithVersionCheck_cases id version input resetOverdueFlag db with
    ⟨silent, same⟩ | ⟨row, due, -, -, -, -, executed⟩
  · rcases affected_eq_false_iff.mp silent with answered | ⟨error, answered⟩
    · rw [answered]
      exact missed _ same
    · rw [answered]
      exact failed _ _ same
  · simp only [executed]
    exact wrote _ _ ⟨by simp [writesTicket, executed, affected], _, _, rfl⟩

/-- The UPDATE of a PATCH and what follows it. -/
theorem finishUpdate_outline {before : TicketRow} (reads : OnlyReads events)
    (saw : Saw events (.findTicketById id) (some before)) (unresolved : before.status ≠ .done)
    (legal : isIllegalTransition before.status dto.status = false)
    (blockers : dto.status = .value .done → Saw events (.countUnresolvedBlockers id) (0 : ℕ)) :
    (execute (.updateWithVersionCheck id dto.version.toOption dto.toTicketUpdate
      dto.priority.isDefined) >>= finishUpdate id dto performedBy before).Outline exec
      (Sends (.updateTicket id dto performedBy))
      (AllOrNothing (IsTicketPatch id dto.version.toOption)) events := by
  refine outline_updateWithVersionCheck (.updateTicket reads saw unresolved legal blockers) ?_ ?_ ?_
  · intro event same
    refine (outline_select _ _).mpr ⟨.read, fun db => ?_⟩
    exact .failed ((reads.silent.cons same).cons rfl) _
  · intro event exception same
    exact .failed (reads.silent.cons same) _
  · intro event row written
    refine (AuditService.outline_log _ _).mpr ⟨.other rfl, fun db => ?_⟩
    exact .succeeded (List.mem_cons_of_mem _ List.mem_cons_self) written _

/-- **A ticket PATCH** writes once, from what it has read, or changes nothing. -/
theorem update_outline :
    (update id dto performedBy).Outline exec (Sends (.updateTicket id dto performedBy))
      (AllOrNothing (IsTicketPatch id dto.version.toOption)) [] := by
  have refused (exception : Exception) {events : History} (reads : OnlyReads events) :
      AllOrNothing (α := TicketResponse) (IsTicketPatch id dto.version.toOption) events
        (.error exception) := .failed reads.silent _
  unfold update
  split_ifs
  · exact refused _ .nil
  · exact refused _ .nil
  refine (outline_getOrThrow _).mpr ⟨.read, fun db => ?_⟩
  cases found : TicketsRepository.findById id db with
  | none => exact refused _ (.cons .nil)
  | some before =>
      simp only
      split_ifs with resolved illegal
      · exact refused _ (.cons .nil)
      · exact refused _ (.cons .nil)
      have saw : Saw [⟨.select (.findTicketById id), db⟩] (.findTicketById id) (some before) :=
        ⟨db, by simp, found⟩
      -- What is known when the assignee is checked, whether or not blockers were counted.
      have write {events : History} (reads : OnlyReads events)
          (saw : Saw events (.findTicketById id) (some before))
          (blockers : dto.status = .value .done →
            Saw events (.countUnresolvedBlockers id) (0 : ℕ)) :
          (do
            assertAssigneeExists dto.assigneeId
            let updated ← execute (.updateWithVersionCheck id dto.version.toOption
              dto.toTicketUpdate dto.priority.isDefined)
            finishUpdate id dto performedBy before updated : Service TicketResponse).Outline exec
            (Sends (.updateTicket id dto performedBy))
            (AllOrNothing (IsTicketPatch id dto.version.toOption)) events := by
        refine outline_reads (fun events => OnlyReads events ∧
            Saw events (.findTicketById id) (some before) ∧
            (dto.status = .value .done → Saw events (.countUnresolvedBlockers id) (0 : ℕ)))
          (assertAssigneeExists_reads _) ?_ ⟨reads, saw, blockers⟩ ?_ ?_
        · rintro events read db ⟨reads, saw, blockers⟩
          exact ⟨reads.cons, saw.cons, fun isDone => (blockers isDone).cons⟩
        · rintro events - ⟨reads, saw, blockers⟩
          exact finishUpdate_outline reads saw resolved (by simpa using illegal) blockers
        · rintro events exception ⟨reads, -, -⟩
          exact refused _ reads
      unfold assertNoUnresolvedBlockers
      split_ifs with isDone
      · refine (Program.outline_bind _ _ _).mpr ?_
        refine (outline_select _ _).mpr ⟨.read, fun db' => ?_⟩
        split_ifs with unresolved
        · exact refused _ (.cons (.cons .nil))
        · have none : DependenciesRepository.countUnresolvedBlockers id db' = 0 := by
            simpa [Query.eval] using unresolved
          exact write (.cons (.cons .nil)) saw.cons fun _ => ⟨db', by simp, none⟩
      · exact write (.cons .nil) saw fun toDone => (isDone toDone).elim

/-- A restore writes after reads only. -/
theorem restore_outline :
    (restore id performedBy).Outline exec (Sends (.restoreTicket id performedBy))
      (fun _ _ => True) [] := by
  refine (outline_select _ _).mpr ⟨.read, fun db => ?_⟩
  cases found : TicketsRepository.findByIdAnyState id db with
  | none =>
      simp only [Query.eval, found]
      trivial
  | some existing =>
      simp only [Query.eval, found]
      split_ifs
      · trivial
      · refine (outline_execute _ _).mpr ⟨.restoreTicket (.cons .nil), fun db => ?_⟩
        exact (only_log (by simp)).outline (fun _ _ => Unguarded.sends) _

end TicketsService

/-! ### Comment PATCHes -/

namespace CommentsService

variable {ticketId id performedBy : ℕ} {dto : UpdateCommentDto} {events : History}

/-- The transaction of a PATCH and what follows it: it has changed nothing, or
it has written the comment and answers with the row. -/
theorem outline_updateContentAndMentions {β : Type} {sends : History → Statement → Prop}
    {ends : History → Except Exception β → Prop} {version : Option ℕ} {content : String}
    {mentionedUserIds : List ℕ} {onCommitting : CommentRow → AuditInsert}
    {next : Option CommentRow → Service β}
    (sent : sends events (.command (.updateContentAndMentions id version content mentionedUserIds
      onCommitting)))
    (missed : ∀ event, (exec event.op event.state).2 = event.state →
      (next none).Outline exec sends ends (event :: events))
    (failed : ∀ event exception, (exec event.op event.state).2 = event.state →
      ends (event :: events) (.error exception))
    (wrote : ∀ event row, IsCommentPatch id version event →
      (next (some row)).Outline exec sends ends (event :: events)) :
    (execute (.updateContentAndMentions id version content mentionedUserIds onCommitting) >>=
      next).Outline exec sends ends events := by
  refine (outline_execute _ _).mpr ⟨sent, fun db => ?_⟩
  simp only [Command.exec]
  -- It has missed, it has failed, or it has written and returned the row.
  rcases updateContentAndMentions_cases id version content mentionedUserIds onCommitting db with
    ⟨silent, same⟩ | ⟨row, -, -, answered, -⟩
  · rcases affected_eq_false_iff.mp silent with answered | ⟨error, answered⟩
    · rw [answered]
      exact missed _ same
    · rw [answered]
      exact failed _ _ same
  · have written : IsCommentPatch id version ⟨.command (.updateContentAndMentions id version
        content mentionedUserIds onCommitting), db⟩ :=
      ⟨by simp [writesComment, answered], _, _, _, rfl⟩
    obtain ⟨row, answered⟩ := affected_iff.mp answered
    rw [answered]
    exact wrote _ _ written

/-- **A comment PATCH** writes once or changes nothing. -/
theorem update_outline :
    (update ticketId id dto performedBy).Outline exec
      (Sends (.updateComment ticketId id dto performedBy))
      (AllOrNothing (IsCommentPatch id dto.version.toOption)) [] := by
  have refused (exception : Exception) {events : History} (reads : OnlyReads events) :
      AllOrNothing (α := CommentResponse) (IsCommentPatch id dto.version.toOption) events
        (.error exception) := .failed reads.silent _
  unfold update
  split_ifs
  · exact refused _ .nil
  refine (Program.outline_bind _ _ _).mpr ((outline_select _ _).mpr ⟨.read, fun db => ?_⟩)
  cases found : CommentsRepository.findById id db with
  | none =>
      simp only [Query.eval, found]
      exact refused _ (.cons .nil)
  | some existing =>
      simp only [Query.eval, found, Program.pure_eq, Program.outline_done]
      split_ifs
      · exact refused _ (.cons .nil)
      refine outline_reads OnlyReads (resolveMentions_reads _) (fun _ _ _ reads => reads.cons)
        (.cons .nil) ?_ fun _ _ reads => refused _ reads
      intro events mentionedUserIds reads
      refine outline_updateContentAndMentions (.other rfl) ?_ ?_ ?_
      · -- A stale version: the service reads the comment once more and refuses.
        intro event same
        refine (outline_select _ _).mpr ⟨.read, fun db => ?_⟩
        exact .failed ((reads.silent.cons same).cons rfl) _
      · intro event exception same
        exact .failed (reads.silent.cons same) _
      · -- The mentions are read back after the write.
        intro event row written
        refine (outline_select _ _).mpr ⟨.read, fun db => ?_⟩
        exact .succeeded (List.mem_cons_of_mem _ List.mem_cons_self) written _

end CommentsService

/-! ### The cycle check -/

namespace DependenciesService

variable {ticketId blockerId performedBy : ℕ} {events : History}

omit [Postgres] in
@[simp] theorem walkReads_cons (current : ℕ) (db : Db) :
    walkReads (⟨.select (.blockerIdsOf current), db⟩ :: events) =
      (current, db) :: walkReads events := rfl

omit [Postgres] in
theorem hasMet_cons {current id : ℕ} {db : Db}
    (met : HasMet blockerId (⟨.select (.blockerIdsOf current), db⟩ :: events) id) :
    HasMet blockerId events id ∨ db.blockedBy current id := by
  rcases met with start | ⟨read, member, edge⟩
  · exact .inl (.inl start)
  · rcases List.mem_cons.mp member with rfl | earlier
    · exact .inr edge
    · exact .inl (.inr ⟨read, earlier, edge⟩)

/-- The loop of the cycle check. What it has visited it has read, and what it
has met it has visited or will pop. -/
theorem walk_outline (fuel : ℕ) {visited stack : List ℕ} (reads : OnlyReads events)
    (seen : ∀ id, id ∈ visited ↔ HasRead events id)
    (met : ∀ id, HasMet blockerId events id → id ∈ visited ∨ id ∈ stack)
    (clear : ticketId ∉ visited) :
    (walk ticketId fuel visited stack).Outline exec
      (Sends (.addDependency ticketId blockerId performedBy))
      (fun events result => OnlyReads events ∧
        (result = .ok false → ClearOf ticketId blockerId events)) events := by
  induction fuel generalizing visited stack events with
  | zero =>
      cases stack with
      | nil =>
          refine ⟨reads, fun _ => ⟨fun id isMet => ?_, (seen ticketId).not.mp clear⟩⟩
          simpa [seen] using met id isMet
      | cons current stack => exact ⟨reads, fun ended => by cases ended⟩
  | succ fuel ih =>
      cases stack with
      | nil =>
          refine ⟨reads, fun _ => ⟨fun id isMet => ?_, (seen ticketId).not.mp clear⟩⟩
          simpa [seen] using met id isMet
      | cons current stack =>
          rw [walk]
          split_ifs with reached again
          · exact ⟨reads, fun ended => by cases ended⟩
          · -- A ticket that was visited before is popped without a read.
            refine ih reads seen (fun id isMet => ?_) clear
            rcases met id isMet with old | pending
            · exact .inl old
            · rcases List.mem_cons.mp pending with rfl | pending
              · exact .inl again
              · exact .inr pending
          · refine (outline_select _ _).mpr ⟨.read, fun db => ?_⟩
            refine ih reads.cons (fun id => ?_) (fun id isMet => ?_) ?_
            · simp [HasRead, seen, eq_comm]
            · rcases hasMet_cons isMet with before | edge
              · rcases met id before with old | pending
                · exact .inl (List.mem_cons_of_mem _ old)
                · rcases List.mem_cons.mp pending with rfl | pending
                  · exact .inl List.mem_cons_self
                  · exact .inr (List.mem_append_right _ pending)
              · -- A blocker of the ticket that was just read.
                by_cases old : id ∈ current :: visited
                · exact .inl old
                · refine .inr (List.mem_append_left _ ?_)
                  simp only [List.mem_cons, not_or] at old
                  simpa [Query.eval, old] using edge
            · simp [Ne.symm reached, clear]

/-- **Adding a dependency** inserts only after a completed walk. -/
theorem add_outline (fuel : ℕ) :
    (add fuel ticketId blockerId performedBy).Outline exec
      (Sends (.addDependency ticketId blockerId performedBy)) (fun _ _ => True) [] := by
  unfold add
  split_ifs
  · trivial
  refine (outline_select _ _).mpr ⟨.read, fun db => ?_⟩
  cases foundTicket : TicketsRepository.findById ticketId db with
  | none =>
      simp only [Query.eval, foundTicket]
      trivial
  | some ticket =>
      simp only [Query.eval, foundTicket]
      refine (outline_select _ _).mpr ⟨.read, fun db' => ?_⟩
      cases foundBlocker : TicketsRepository.findById blockerId db' with
      | none =>
          simp only [Query.eval, foundBlocker]
          trivial
      | some blocker =>
          simp only [Query.eval, foundBlocker]
          split_ifs
          · trivial
          refine (Program.outline_bind _ _ _).mpr ?_
          -- The walk starts with the blocker on the stack, and nothing visited.
          refine (walk_outline fuel (.cons (.cons .nil)) (fun id => ?_)
            (fun id isMet => ?_) ?_).mono (fun _ _ sends => sends) ?_
          · simp [HasRead, walkReads]
          · rcases isMet with rfl | ⟨_, member, -⟩
            · exact .inr (List.mem_singleton_self _)
            · simp [walkReads] at member
          · simp
          · rintro events (exception | creates) ⟨reads, walked⟩
            · trivial
            cases creates with
            | true => trivial
            | false =>
                have inserted : (insertEdge ticketId blockerId performedBy).Outline exec
                    (Sends (.addDependency ticketId blockerId performedBy)) (fun _ _ => True)
                    events := by
                  refine (outline_execute _ _).mpr
                    ⟨.addDependency reads (walked rfl), fun db => ?_⟩
                  split
                  · split_ifs
                    · exact (only_log (by simp)).outline (fun _ _ => Unguarded.sends) _
                    · trivial
                  · trivial
                exact inserted

end DependenciesService

/-! ### Escalation -/

namespace EscalationService

variable {events : History}

omit [Postgres] in
theorem scanned_cons {ticket : TicketRow} {event : Event Statement Db}
    (scanned : Scanned events ticket) : Scanned (event :: events) ticket := by
  obtain ⟨db, member, found⟩ := scanned
  exact ⟨db, List.mem_cons_of_mem _ member, found⟩

/-- The tickets a cycle still has to decide were scanned, and nothing was sent
for them yet. -/
structure Pending (events : History) (overdue : List TicketRow) : Prop where
  distinct : (overdue.map (·.id)).Nodup
  scanned : ∀ ticket ∈ overdue, Scanned events ticket
  unsent : ∀ ticket ∈ overdue, ∀ event ∈ events, ∀ change,
    event.op ≠ .command (.applyEscalation ticket.id change)

omit [Postgres] in
theorem Pending.tail {ticket : TicketRow} {overdue : List TicketRow}
    (pending : Pending events (ticket :: overdue)) : Pending events overdue where
  distinct := (List.nodup_cons.mp pending.distinct).2
  scanned other member := pending.scanned other (List.mem_cons_of_mem _ member)
  unsent other member := pending.unsent other (List.mem_cons_of_mem _ member)

omit [Postgres] in
/-- A statement about no pending ticket leaves them pending. -/
theorem Pending.cons {overdue : List TicketRow} {event : Event Statement Db}
    (pending : Pending events overdue)
    (other : ∀ ticket ∈ overdue, ∀ change,
      event.op ≠ .command (.applyEscalation ticket.id change)) :
    Pending (event :: events) overdue where
  distinct := pending.distinct
  scanned ticket member := scanned_cons (pending.scanned ticket member)
  unsent ticket member := List.forall_mem_cons.mpr
    ⟨other ticket member, pending.unsent ticket member⟩

/-- The loop of a cycle: each write is decided from the scan. -/
theorem escalateAll_outline {overdue : List TicketRow} (summary : EscalationSummary)
    (pending : Pending events overdue) :
    (escalateAll summary overdue).Outline exec (Sends .escalate) (fun _ _ => True) events := by
  induction overdue generalizing summary events with
  | nil => trivial
  | cons ticket overdue ih =>
      rw [escalateAll, escalate]
      cases decided : decision ticket with
      | none => exact ih _ pending.tail
      | some change =>
          have scanned := pending.scanned ticket List.mem_cons_self
          refine (Program.outline_bind _ _ _).mpr ((outline_execute _ _).mpr ⟨?_, fun db => ?_⟩)
          · exact .escalate scanned decided (pending.unsent ticket List.mem_cons_self)
          -- The write is about this ticket, so the others are still unsent.
          have remaining : Pending (⟨.command (.applyEscalation ticket.id change), db⟩ :: events)
              overdue := by
            refine pending.tail.cons fun other member change' same => ?_
            have id : ticket.id = other.id := by
              injection same with same
              injection same
            exact (List.nodup_cons.mp pending.distinct).1
              (List.mem_map.mpr ⟨other, member, id.symm⟩)
          simp only [Command.exec]
          rcases applyEscalation_cases ticket.id change db with
            ⟨silent, -⟩ | ⟨row, -, -, -, executed⟩
          · rcases affected_eq_false_iff.mp silent with answered | ⟨error, answered⟩
            · rw [answered]
              exact ih _ remaining
            · rw [answered]
              trivial
          · have writes : writesTicket ticket.id
                ⟨.command (.applyEscalation ticket.id change), db⟩ := by
              simp [writesTicket, executed, affected]
            simp only [executed]
            refine (AuditService.outline_log _ _).mpr ⟨.escalated scanned decided writes, ?_⟩
            refine fun db => ih _ (remaining.cons ?_)
            intro ticket member change same
            cases same

/-- **An escalation cycle** writes what it has decided from its scan. -/
theorem runOnce_outline : runOnce.Outline exec (Sends .escalate) (fun _ _ => True) [] := by
  refine (outline_select _ _).mpr ⟨.read, fun db => escalateAll_outline _ ⟨?_, ?_, ?_⟩⟩
  · exact db.tickets.nodup_keys.sublist (List.filter_sublist.map _)
  · exact fun ticket member => ⟨db, List.mem_cons_self, member⟩
  · exact fun _ _ event member _ => by simp [List.mem_singleton.mp member]

end EscalationService

/-! ### Users and tokens -/

/-- **Deleting a user** is sent after reads. -/
theorem UsersService.delete_outline {id performedBy : ℕ} :
    (UsersService.delete id performedBy).Outline exec (Sends (.deleteUser id performedBy))
      (fun _ _ => True) [] := by
  refine outline_reads OnlyReads (UsersService.getOrThrow_reads _) (fun _ _ _ reads => reads.cons)
    .nil ?_ fun _ _ _ => trivial
  intro events before reads
  refine (outline_execute _ _).mpr ⟨.deleteUser reads, fun db => ?_⟩
  split
  · split_ifs
    · trivial
    · exact (only_log (by simp)).outline (fun _ _ => Unguarded.sends) _
  · trivial

/-- What the strategy accepts has the claims of the token. -/
theorem JwtStrategy.authenticate_outline {request : Request} {payload : JwtPayload} :
    (JwtStrategy.authenticate payload).Outline exec (Sends request)
      (fun events result => OnlyReads events ∧ ∀ user, result = .ok user →
        user.id = payload.sub ∧ payload.jti = some user.jti ∧ payload.exp = some user.exp) [] := by
  refine (outline_select _ _).mpr ⟨.read, fun db => ?_⟩
  split_ifs
  · unfold JwtStrategy.validate
    split
    · rename_i jti exp token expiry
      split_ifs
      · exact ⟨.cons .nil, nofun⟩
      · refine (outline_select _ _).mpr ⟨.read, fun db => ?_⟩
        split_ifs
        · exact ⟨.cons (.cons .nil), nofun⟩
        · refine ⟨.cons (.cons .nil), ?_⟩
          rintro user same
          obtain rfl := Except.ok.inj same
          exact ⟨rfl, token, expiry⟩
    · exact ⟨.cons .nil, nofun⟩
  · exact ⟨.cons .nil, nofun⟩

/-- **A logout** revokes the token it came with. -/
theorem AuthController.logout_outline {payload : JwtPayload} :
    (AuthController.logout payload).Outline exec (Sends (.logout payload))
      (fun _ _ => True) [] := by
  refine (Program.outline_bind _ _ _).mpr
    (JwtStrategy.authenticate_outline.mono (fun _ _ sends => sends) ?_)
  rintro events (exception | user) ⟨reads, accepted⟩
  · trivial
  · obtain ⟨id, token, expiry⟩ := accepted user rfl
    refine ⟨?_, fun db => ?_⟩
    · rw [id]
      exact .revoke reads token expiry
    · generalize (exec _ db).1 = answer
      cases answer <;> trivial

/-! ### All requests -/

section Requests

variable [Bcrypt] [Unicode]

/-- A request without guarded writes may send them at any time. -/
theorem Request.outline_unguarded {request : Request} (fuel : ℕ)
    (unguarded : ∀ write, request.MayWrite write → write.isGuarded = false) :
    (request.program fuel).Outline exec (Sends request) (fun _ _ => True) [] :=
  (only_unguarded (request.only fuel) unguarded).outline (fun _ _ => Unguarded.sends) []

/-- **Every request keeps to its outline.** -/
theorem Request.outline (request : Request) (fuel : ℕ) :
    (request.program fuel).Outline exec (Sends request) (Ends request) [] := by
  have mapped {α : Type} {p : Service α}
      (outline : p.Outline exec (Sends request) (fun _ _ => True) []) (wrap : α → Response) :
      (wrap <$> p).Outline exec (Sends request) (fun _ _ => True) [] :=
    (Program.outline_map _ _ _).mpr outline
  -- A write without evidence, or an entry about it.
  have either {action : AuditAction} {entityType : AuditEntity} {write : Command} {sent : Prop}
      (other : action ≠ .priorityEscalated) (unguarded : sent → write.isGuarded = false)
      (holds : sent ∨ Logs action entityType write) : write.isGuarded = false :=
    holds.elim unguarded (·.unguarded other)
  cases request with
  | createUser dto performedBy salt =>
      exact Request.outline_unguarded fuel fun _ => either (by simp) (by rintro ⟨_, rfl⟩; rfl)
  | updateUser id dto performedBy =>
      exact Request.outline_unguarded fuel fun _ => either (by simp) (by rintro rfl; rfl)
  | deleteUser id performedBy => exact mapped UsersService.delete_outline _
  | createProject dto performedBy =>
      exact Request.outline_unguarded fuel fun _ => either (by simp) (by rintro rfl; rfl)
  | updateProject id dto performedBy =>
      exact Request.outline_unguarded fuel fun _ => either (by simp) (by rintro rfl; rfl)
  | softDeleteProject id performedBy =>
      exact Request.outline_unguarded fuel fun _ => either (by simp) (by rintro rfl; rfl)
  | restoreProject id performedBy =>
      exact Request.outline_unguarded fuel fun _ => either (by simp) (by rintro rfl; rfl)
  | createTicket dto performedBy =>
      refine Request.outline_unguarded fuel ?_
      rintro _ (⟨_, rfl⟩ | logged | logged)
      · rfl
      · exact logged.unguarded (by simp)
      · exact logged.unguarded (by simp)
  | updateTicket id dto performedBy =>
      exact (Program.outline_map _ _ _).mpr (TicketsService.update_outline.mono
        (fun _ _ sends => sends) fun _ _ ends => ends.map _)
  | softDeleteTicket id performedBy =>
      exact Request.outline_unguarded fuel fun _ => either (by simp) (by rintro rfl; rfl)
  | restoreTicket id performedBy => exact mapped TicketsService.restore_outline _
  | importTickets projectId parsed performedBy =>
      exact Request.outline_unguarded fuel fun _ => either (by simp) (by rintro ⟨_, rfl⟩; rfl)
  | addDependency ticketId blockerId performedBy =>
      exact mapped (DependenciesService.add_outline fuel) _
  | removeDependency ticketId blockerId performedBy =>
      exact Request.outline_unguarded fuel fun _ => either (by simp) (by rintro rfl; rfl)
  | escalate => exact mapped EscalationService.runOnce_outline _
  | createComment ticketId dto performedBy =>
      exact Request.outline_unguarded fuel (by rintro _ ⟨_, _, rfl, -⟩; rfl)
  | updateComment ticketId commentId dto performedBy =>
      exact (Program.outline_map _ _ _).mpr (CommentsService.update_outline.mono
        (fun _ _ sends => sends) fun _ _ ends => ends.map _)
  | deleteComment ticketId commentId performedBy =>
      exact Request.outline_unguarded fuel fun _ => either (by simp) (by rintro rfl; rfl)
  | uploadAttachment ticketId file uploaderId uuid disk =>
      exact Request.outline_unguarded fuel fun _ => either (by simp) (by rintro ⟨_, rfl, -⟩; rfl)
  | deleteAttachment ticketId attachmentId performedBy =>
      exact Request.outline_unguarded fuel fun _ => either (by simp) (by rintro rfl; rfl)
  | login expiresInSeconds jti username password =>
      exact Request.outline_unguarded fuel fun _ => False.elim
  | logout payload => exact mapped AuthController.logout_outline _
  | authenticate payload => exact Request.outline_unguarded fuel fun _ => False.elim

/-- Requests that start together keep to their outlines. -/
theorem System.outlined_start {ι : Type} [DecidableEq ι] (db : Db) (requests : ι → Request)
    (fuel : ι → ℕ) : (System.start db requests fuel).Outlined exec
      (fun thread => Sends (requests thread)) fun thread => Ends (requests thread) :=
  fun thread => Request.outline (requests thread) (fuel thread)

theorem System.outlined {ι : Type} [DecidableEq ι] (db : Db) (requests : ι → Request)
    (fuel : ι → ℕ) (turns : List (Turn ι ℕ)) : (System.run db requests fuel turns).Outlined exec
      (fun thread => Sends (requests thread)) fun thread => Ends (requests thread) :=
  (System.outlined_start db requests fuel).play turns

end Requests

end IssueFlow
