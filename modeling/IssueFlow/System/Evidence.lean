import IssueFlow.Database.CommentTransitions
import IssueFlow.System.Requests

/-!
# Evidence

What a request has seen when it sends a write. `Sends` lists the writes that
some result depends on, each with the evidence its request has gathered before
sending it; all other statements may be sent at any time. `Ends` says how a
request ends.

## Main definitions

* `OnlyReads`, `Silent`, `Saw`, `Scanned`, `ClearOf` — facts about the statements sent so far
* `Sends`, `Ends` — what a request may send and return
-/

namespace IssueFlow

open Store Semantics JavaScript

variable [Postgres]

/-- The statements a request has sent, the most recent one first. -/
abbrev History := List (Event Statement Db)

/-- Everything sent so far was a read. -/
def OnlyReads (events : History) : Prop := ∀ event ∈ events, ∃ read, event.op = .select read

/-- Nothing sent so far has changed the state it found. -/
def Silent (events : History) : Prop :=
  ∀ event ∈ events, (exec event.op event.state).2 = event.state

/-- A read that was answered with these rows. -/
def Saw (events : History) (read : Query) (rows : read.Rows) : Prop :=
  ∃ db, ⟨.select read, db⟩ ∈ events ∧ read.eval db = rows

/-- A ticket of the escalation scan. -/
def Scanned (events : History) (ticket : TicketRow) : Prop :=
  ∃ db, ⟨.select .findOverdueUnresolved, db⟩ ∈ events ∧
    ticket ∈ TicketsRepository.findOverdueUnresolved db

/-- The tickets whose blockers the walk has read, each with the state it was
read in. -/
def walkReads (events : History) : List (ℕ × Db) :=
  events.filterMap fun event =>
    match event.op with
    | .select (.blockerIdsOf ticketId) => some (ticketId, event.state)
    | _ => none

/-- The walk has read the blockers of a ticket. -/
def HasRead (events : History) (ticketId : ℕ) : Prop :=
  ∃ read ∈ walkReads events, read.1 = ticketId

/-- The walk has met a ticket: it started there or found it as a blocker. -/
def HasMet (blockerId : ℕ) (events : History) (ticketId : ℕ) : Prop :=
  ticketId = blockerId ∨ ∃ read ∈ walkReads events, read.2.blockedBy read.1 ticketId

instance (events : History) (ticketId : ℕ) : Decidable (HasRead events ticketId) :=
  inferInstanceAs (Decidable (∃ read ∈ walkReads events, read.1 = ticketId))

instance (blockerId : ℕ) (events : History) (ticketId : ℕ) :
    Decidable (HasMet blockerId events ticketId) :=
  inferInstanceAs (Decidable (ticketId = blockerId ∨
    ∃ read ∈ walkReads events, read.2.blockedBy read.1 ticketId))

/-- A completed walk from `blockerId`: everything it has met it has read, and
`ticketId` is not among that. -/
structure ClearOf (ticketId blockerId : ℕ) (events : History) : Prop where
  read : ∀ id, HasMet blockerId events id → HasRead events id
  clear : ¬ HasRead events ticketId

/-- The writes that are sent only with evidence. -/
def Command.isGuarded : Command → Bool
  | updateWithVersionCheck .. | restoreTicket _ | applyEscalation .. | addDependency ..
  | deleteUser _ | revoke .. => true
  | insertAudit input => input.action = .priorityEscalated
  | _ => false

/-- What a request may send after the statements it has sent so far. -/
inductive Sends : Request → History → Statement → Prop
  | read {request : Request} {events : History} {read : Query} :
      Sends request events (.select read)
  | other {request : Request} {events : History} {write : Command}
      (unguarded : write.isGuarded = false) : Sends request events (.command write)
  | updateTicket {id performedBy : ℕ} {dto : UpdateTicketDto} {events : History}
      {before : TicketRow} (reads : OnlyReads events)
      (saw : Saw events (.findTicketById id) (some before)) (unresolved : before.status ≠ .done)
      (legal : TicketsService.isIllegalTransition before.status dto.status = false)
      (blockers : dto.status = .value .done → Saw events (.countUnresolvedBlockers id) (0 : ℕ)) :
      Sends (.updateTicket id dto performedBy) events
        (.command (.updateWithVersionCheck id dto.version.toOption dto.toTicketUpdate
          dto.priority.isDefined))
  | restoreTicket {id performedBy : ℕ} {events : History} (reads : OnlyReads events) :
      Sends (.restoreTicket id performedBy) events (.command (.restoreTicket id))
  | addDependency {ticketId blockerId performedBy : ℕ} {events : History}
      (reads : OnlyReads events) (walked : ClearOf ticketId blockerId events) :
      Sends (.addDependency ticketId blockerId performedBy) events
        (.command (.addDependency ticketId blockerId))
  | escalate {events : History} {ticket : TicketRow} {change : EscalationChange}
      (scanned : Scanned events ticket)
      (decided : EscalationService.decision ticket = some change)
      (first : ∀ event ∈ events, ∀ other, event.op ≠ .command (.applyEscalation ticket.id other)) :
      Sends .escalate events (.command (.applyEscalation ticket.id change))
  | escalated {events : History} {ticket : TicketRow} {change : EscalationChange} {db : Db}
      (scanned : Scanned events ticket)
      (decided : EscalationService.decision ticket = some change)
      (writes : writesTicket ticket.id ⟨.command (.applyEscalation ticket.id change), db⟩) :
      Sends .escalate (⟨.command (.applyEscalation ticket.id change), db⟩ :: events)
        (.command (.insertAudit (EscalationService.escalationEntry ticket change)))
  | deleteUser {id performedBy : ℕ} {events : History} (reads : OnlyReads events) :
      Sends (.deleteUser id performedBy) events (.command (.deleteUser id))
  | revoke {payload : JwtPayload} {jti : String} {exp : ℤ} {events : History}
      (reads : OnlyReads events) (token : payload.jti = some jti)
      (expiry : payload.exp = some exp) :
      Sends (.logout payload) events (.command (.revoke jti payload.sub (exp * 1000)))

/-- A request that succeeded has made a write, and one that failed has changed
nothing. -/
structure AllOrNothing {α : Type} (wrote : Event Statement Db → Prop) (events : History)
    (result : Except Exception α) : Prop where
  success : ∀ value, result = .ok value → ∃ event ∈ events, wrote event
  failure : ∀ exception, result = .error exception → Silent events

/-- The write of a ticket PATCH. -/
def IsTicketPatch (id : ℕ) (version : Option ℕ) (event : Event Statement Db) : Prop :=
  writesTicket id event ∧ ∃ input resetOverdueFlag,
    event.op = .command (.updateWithVersionCheck id version input resetOverdueFlag)

/-- The write of a comment PATCH. -/
def IsCommentPatch (id : ℕ) (version : Option ℕ) (event : Event Statement Db) : Prop :=
  writesComment id event ∧ ∃ content mentionedUserIds onCommitting,
    event.op = .command (.updateContentAndMentions id version content mentionedUserIds onCommitting)

/-- How a request ends. -/
def Ends {α : Type} : Request → History → Except Exception α → Prop
  | .updateTicket id dto _, events, result =>
      AllOrNothing (IsTicketPatch id dto.version.toOption) events result
  | .updateComment _ id dto _, events, result =>
      AllOrNothing (IsCommentPatch id dto.version.toOption) events result
  | _, _, _ => True

/-! ### Common parts -/

section Common

variable {α β : Type} {events : History}

omit [Postgres] in
theorem OnlyReads.nil : OnlyReads [] := by simp [OnlyReads]

omit [Postgres] in
theorem OnlyReads.cons {read : Query} {db : Db} (reads : OnlyReads events) :
    OnlyReads (⟨.select read, db⟩ :: events) := by
  intro event member
  rcases List.mem_cons.mp member with rfl | earlier
  · exact ⟨read, rfl⟩
  · exact reads event earlier

/-- Reads change nothing. -/
theorem OnlyReads.silent (reads : OnlyReads events) : Silent events := by
  intro event member
  obtain ⟨read, same⟩ := reads event member
  rw [same]
  rfl

theorem Saw.head (read : Query) (db : Db) :
    Saw (⟨.select read, db⟩ :: events) read (read.eval db) :=
  ⟨db, List.mem_cons_self, rfl⟩

theorem Saw.cons {read : Query} {rows : read.Rows} {event : Event Statement Db}
    (saw : Saw events read rows) : Saw (event :: events) read rows := by
  obtain ⟨db, member, answer⟩ := saw
  exact ⟨db, List.mem_cons_of_mem _ member, answer⟩

theorem Silent.cons {event : Event Statement Db}
    (same : (exec event.op event.state).2 = event.state) (silent : Silent events) :
    Silent (event :: events) :=
  List.forall_mem_cons.mpr ⟨same, silent⟩

/-- A request that fails after statements that changed nothing. -/
theorem AllOrNothing.failed {wrote : Event Statement Db → Prop} (silent : Silent events)
    (exception : Exception) :
    AllOrNothing wrote events (.error exception : Except Exception β) where
  success _ succeeded := nomatch succeeded
  failure _ _ := silent

/-- A request that succeeds after its write. -/
theorem AllOrNothing.succeeded {wrote : Event Statement Db → Prop} {event : Event Statement Db}
    (member : event ∈ events) (written : wrote event) (value : β) :
    AllOrNothing wrote events (.ok value : Except Exception β) where
  success _ _ := ⟨event, member, written⟩
  failure _ failed := nomatch failed

theorem AllOrNothing.mono {wrote wrote' : Event Statement Db → Prop}
    {result : Except Exception β} (weaker : ∀ event, wrote event → wrote' event)
    (holds : AllOrNothing wrote events result) : AllOrNothing wrote' events result where
  success value succeeded := by
    obtain ⟨event, member, written⟩ := holds.success value succeeded
    exact ⟨event, member, weaker event written⟩
  failure := holds.failure

theorem AllOrNothing.map {wrote : Event Statement Db → Prop} {result : Except Exception α}
    (holds : AllOrNothing wrote events result) (f : α → β) :
    AllOrNothing wrote events (result.map f) := by
  cases result with
  | ok value =>
      obtain ⟨event, member, written⟩ := holds.success value rfl
      exact .succeeded member written _
  | error exception => exact .failed (holds.failure exception rfl) _

end Common

/-! ### The evidence for each guarded write -/

section Inversion

variable {request : Request} {events : History}

/-- An INSERT of a dependency is sent by an add, after a completed walk. -/
theorem Sends.walked {ticketId blockerId : ℕ}
    (sends : Sends request events (.command (.addDependency ticketId blockerId))) :
    ∃ performedBy, request = .addDependency ticketId blockerId performedBy ∧
      OnlyReads events ∧ ClearOf ticketId blockerId events := by
  cases sends with
  | other unguarded => cases unguarded
  | addDependency reads walked => exact ⟨_, rfl, reads, walked⟩

/-- A ticket is restored by a request for it, after reads. -/
theorem Sends.restored {id : ℕ} (sends : Sends request events (.command (.restoreTicket id))) :
    ∃ performedBy, request = .restoreTicket id performedBy ∧ OnlyReads events := by
  cases sends with
  | other unguarded => cases unguarded
  | restoreTicket reads => exact ⟨_, rfl, reads⟩

/-- A user is deleted by a request for it, after reads. -/
theorem Sends.deleted {id : ℕ} (sends : Sends request events (.command (.deleteUser id))) :
    ∃ performedBy, request = .deleteUser id performedBy ∧ OnlyReads events := by
  cases sends with
  | other unguarded => cases unguarded
  | deleteUser reads => exact ⟨_, rfl, reads⟩

/-- A token is revoked by its logout, until it would expire. -/
theorem Sends.revoked {jti : String} {userId : ℕ} {expiresAt : Timestamp}
    (sends : Sends request events (.command (.revoke jti userId expiresAt))) :
    ∃ payload exp, request = .logout payload ∧ payload.jti = some jti ∧ payload.exp = some exp ∧
      expiresAt = exp * 1000 := by
  cases sends with
  | other unguarded => cases unguarded
  | revoke reads token expiry => exact ⟨_, _, rfl, token, expiry, rfl⟩

/-- A versioned UPDATE is sent after the checks of its PATCH. -/
theorem Sends.checked {id : ℕ} {version : Option ℕ} {input : TicketUpdate}
    {resetOverdueFlag : Bool} (sends : Sends request events
      (.command (.updateWithVersionCheck id version input resetOverdueFlag))) :
    ∃ before, OnlyReads events ∧ Saw events (.findTicketById id) (some before) ∧
      before.status ≠ .done ∧
      TicketsService.isIllegalTransition before.status input.status = false ∧
      (input.status = .value .done → Saw events (.countUnresolvedBlockers id) (0 : ℕ)) := by
  cases sends with
  | other unguarded => cases unguarded
  | updateTicket reads saw unresolved legal blockers =>
      exact ⟨_, reads, saw, unresolved, legal, blockers⟩

/-- An escalation write was decided from the scan. -/
theorem Sends.decided {id : ℕ} {change : EscalationChange}
    (sends : Sends request events (.command (.applyEscalation id change))) :
    ∃ ticket, Scanned events ticket ∧ ticket.id = id ∧
      EscalationService.decision ticket = some change := by
  cases sends with
  | other unguarded => cases unguarded
  | escalate scanned decided first => exact ⟨_, scanned, rfl, decided⟩

/-- An escalation entry follows the write it is about. -/
theorem Sends.audited {input : AuditInsert}
    (sends : Sends request events (.command (.insertAudit input)))
    (action : input.action = .priorityEscalated) :
    ∃ ticket change db, ⟨.command (.applyEscalation ticket.id change), db⟩ ∈ events ∧
      writesTicket ticket.id ⟨.command (.applyEscalation ticket.id change), db⟩ ∧
      EscalationService.decision ticket = some change ∧
      input = EscalationService.escalationEntry ticket change := by
  cases sends with
  | other unguarded => simp [Command.isGuarded, action] at unguarded
  | escalated scanned decided writes => exact ⟨_, _, _, List.mem_cons_self, writes, decided, rfl⟩

end Inversion

end IssueFlow
