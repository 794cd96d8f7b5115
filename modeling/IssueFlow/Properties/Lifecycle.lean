import IssueFlow.System.Outlines
import IssueFlow.System.Versions

/-!
# The ticket lifecycle under concurrency

A PATCH is checked against the row it has read, but its UPDATE is guarded only
by the version the client sent. When every UPDATE that takes effect carries the
version its PATCH has read, statuses only move forward and a ticket that is
`DONE` is never written again.

## Main definitions

* `VersionRead` — an UPDATE that takes effect carries the version that was read
* `Forward` — the status of a ticket has not moved backward

## Main results

* `status_forward` — schedules in which versions were read
* `status_moves_backward` — a schedule in which a `DONE` ticket is reopened
-/

namespace IssueFlow

open Store Semantics JavaScript

/-- The ticket is still stored and its status is not behind. -/
def Forward (id : ℕ) (before after : Db) : Prop :=
  ∀ row ∈ before.tickets.get? id, ∃ row' ∈ after.tickets.get? id,
    STATUS_ORDER row.status ≤ STATUS_ORDER row'.status

instance (id : ℕ) (before after : Db) : Decidable (Forward id before after) := by
  unfold Forward
  infer_instance

theorem Forward.refl (id : ℕ) (db : Db) : Forward id db db :=
  fun row stored => ⟨row, stored, le_rfl⟩

theorem forward_advance (id elapsed : ℕ) (db : Db) : Forward id db (advance elapsed db) :=
  Forward.refl id db

theorem Forward.trans {id : ℕ} {first second third : Db} (earlier : Forward id first second)
    (later : Forward id second third) : Forward id first third := by
  intro row stored
  obtain ⟨row', stored', behind⟩ := earlier row stored
  obtain ⟨row'', stored'', behind'⟩ := later row' stored'
  exact ⟨row'', stored'', behind.trans behind'⟩

/-- If the event is a read of this ticket, it has returned this version. -/
def ReturnedVersion (id : ℕ) (version : Option ℕ) (event : Event Statement Db) : Prop :=
  match event.op with
  | .select (.findTicketById read) =>
      read = id → ∀ row ∈ TicketsRepository.findById id event.state, version = some row.version
  | _ => True

instance (id : ℕ) (version : Option ℕ) :
    (event : Event Statement Db) → Decidable (ReturnedVersion id version event)
  | ⟨.select (.findTicketById read), db⟩ =>
      inferInstanceAs (Decidable (read = id →
        ∀ row ∈ TicketsRepository.findById id db, version = some row.version))
  | ⟨.command _, _⟩ | ⟨.select (.findUserById _), _⟩ | ⟨.select (.findUserByUsername _), _⟩
  | ⟨.select (.findUsersByUsernamesLower _), _⟩ | ⟨.select (.findProjectById _), _⟩
  | ⟨.select (.findProjectByIdAnyState _), _⟩ | ⟨.select (.findTicketByIdAnyState _), _⟩
  | ⟨.select (.workloadByProject _), _⟩ | ⟨.select .findOverdueUnresolved, _⟩
  | ⟨.select (.blockerIdsOf _), _⟩ | ⟨.select (.countUnresolvedBlockers _), _⟩
  | ⟨.select (.findCommentById _), _⟩ | ⟨.select (.findMentionedUsers _), _⟩
  | ⟨.select (.isRevoked _), _⟩ | ⟨.select .dateNow, _⟩ | ⟨.select .findAllUsers, _⟩
  | ⟨.select .findAllProjects, _⟩ | ⟨.select (.findTicketsByProject _), _⟩
  | ⟨.select .findAllTickets, _⟩ | ⟨.select (.listBlockers _), _⟩
  | ⟨.select (.findCommentsByTicket _), _⟩ | ⟨.select (.findMentionedUsersForComments _), _⟩
  | ⟨.select (.findCommentsMentioning ..), _⟩ | ⟨.select (.countMentions _), _⟩
  | ⟨.select (.findAttachmentById _), _⟩ | ⟨.select (.findAttachmentsByTicket _), _⟩ =>
      .isTrue trivial

section Interleaved

variable [Postgres] {ι : Type} [DecidableEq ι]

/-- When a versioned UPDATE takes effect, it carries the version that its PATCH
has read. -/
def VersionRead (c : System ι) (thread : ι) : Statement → Prop
  | .command (.updateWithVersionCheck id version input resetOverdueFlag) =>
      writesTicket id
          ⟨.command (.updateWithVersionCheck id version input resetOverdueFlag), c.state⟩ →
        ∀ event ∈ c.history thread, ReturnedVersion id version event
  | _ => True

instance (c : System ι) (thread : ι) :
    (statement : Statement) → Decidable (VersionRead c thread statement)
  | .command (.updateWithVersionCheck id version _ _) =>
      inferInstanceAs (Decidable (writesTicket id _ →
        ∀ event ∈ c.history thread, ReturnedVersion id version event))
  | .select _ | .command (.createUser _) | .command (.updateUser ..) | .command (.deleteUser _)
  | .command (.createProject _) | .command (.updateProject ..) | .command (.softDeleteProject _)
  | .command (.restoreProject _) | .command (.createTicket _) | .command (.softDeleteTicket _)
  | .command (.restoreTicket _) | .command (.applyEscalation ..) | .command (.addDependency ..)
  | .command (.removeDependency ..) | .command (.createWithMentions ..)
  | .command (.updateContentAndMentions ..) | .command (.deleteComment _)
  | .command (.createAttachment _) | .command (.deleteAttachment _)
  | .command (.insertAudit _) | .command (.revoke ..) => .isTrue trivial

variable [Bcrypt] [Unicode] {db : Db} {requests : ι → Request} {fuel : ι → ℕ}
  {turns : List (Turn ι ℕ)} {thread : ι}

/-- A version that was read determines the status, so the checks of the PATCH
hold of the row that is written. -/
theorem checked_of_versionRead {id : ℕ} {version : Option ℕ} {input : TicketUpdate}
    {resetOverdueFlag : Bool} {row : TicketRow}
    {next : Statement.Ans (.command (.updateWithVersionCheck id version input resetOverdueFlag)) →
      Service Response}
    (running : (System.run db requests fuel turns).programs thread =
      .call (.command (.updateWithVersionCheck id version input resetOverdueFlag)) next)
    (read : VersionRead (System.run db requests fuel turns) thread
      (.command (.updateWithVersionCheck id version input resetOverdueFlag)))
    (writes : writesTicket id ⟨.command (.updateWithVersionCheck id version input
      resetOverdueFlag), (System.run db requests fuel turns).state⟩)
    (stored : (System.run db requests fuel turns).state.tickets.get? id = some row)
    (expected : version = some row.version) :
    row.status ≠ .done ∧ TicketsService.isIllegalTransition row.status input.status = false := by
  obtain ⟨before, -, ⟨past, executed, found⟩, unresolved, legal, -⟩ :=
    ((System.outlined db requests fuel turns).of_running running).checked
  -- Since the read, a row with the version that was read has the status that was read.
  have fixed : FixedByVersion (·.status) id past
      (System.run db requests fuel turns).state :=
    Config.trace_rel FixedByVersion.refl FixedByVersion.trans
      fixedByVersion_advance status_fixedByVersion turns _
      (Config.mem_history.mp executed)
  have version_eq : row.version = before.version := by
    have returned := read writes _ executed rfl before found
    exact Option.some.inj (expected.symm.trans returned)
  have status_eq : row.status = before.status :=
    fixed.content_eq (Option.filter_eq_some_iff.mp found).1 stored version_eq
  rw [status_eq]
  exact ⟨unresolved, legal⟩

omit [Postgres] [Bcrypt] [Unicode] in
/-- A legal PATCH does not move the status backward. -/
theorem forward_of_legal {before : TicketStatus} {status : Field TicketStatus}
    (legal : TicketsService.isIllegalTransition before status = false) :
    STATUS_ORDER before ≤ STATUS_ORDER (status.getD before) := by
  cases status with
  | undefined => exact le_rfl
  | null => exact le_rfl
  | value after =>
      by_cases same : after = before
      · simp [Field.getD, same]
      · have ordered : STATUS_ORDER before ≤ STATUS_ORDER after := by
          simpa [TicketsService.isIllegalTransition, same] using legal
        exact ordered

/-- Each statement of a schedule in which versions were read moves statuses
forward. -/
theorem forward_exec {statement : Statement} {next : statement.Ans → Service Response}
    (running : (System.run db requests fuel turns).programs thread =
      .call statement next)
    (read : VersionRead (System.run db requests fuel turns) thread statement)
    (id : ℕ) :
    Forward id (System.run db requests fuel turns).state
      (exec statement (System.run db requests fuel turns).state).2 := by
  intro row stored
  obtain ⟨row', stored', transition⟩ := ticket_transition statement stored
  refine ⟨row', stored', ?_⟩
  cases transition with
  | patched live version bound writes =>
      obtain rfl : row.id = id := Table.key_of_get? stored
      have checked := checked_of_versionRead running read writes stored version
      exact forward_of_legal checked.2
  | kept silent => exact le_rfl
  | @escalated _ change live unresolved writes => cases change <;> exact le_rfl
  | softDeleted live => exact le_rfl
  | restored deleted => exact le_rfl
  | unassigned assigned removed => exact le_rfl

/-- **Statuses move forward and `DONE` is final** over every schedule in which
each UPDATE that takes effect carries the version its PATCH has read. -/
theorem status_forward (db : Db) (requests : ι → Request) (fuel : ι → ℕ)
    (first second : List (Turn ι ℕ))
    (read : System.Meets db requests fuel VersionRead (first ++ second)) :
    let c := System.run db requests fuel (first ++ second)
    (∀ id, Forward id (System.run db requests fuel first).state c.state) ∧
      ∀ entry ∈ c.trace, ∀ id version, IsTicketPatch id version entry.2 →
        ∃ row ∈ entry.2.state.tickets.get? id, row.status ≠ .done := by
  intro c
  constructor
  · intro id
    refine read.state_rel (Forward.refl id) Forward.trans (forward_advance id) ?_
    exact fun turns thread statement next running met => forward_exec running met id
  · rintro ⟨thread, ⟨statement, state⟩⟩ member id version ⟨writes, input, resetOverdueFlag, sent⟩
    obtain rfl : statement = _ := sent
    obtain ⟨turns, newer, next, -, -, rfl, running, met⟩ := read.sent member
    rcases updateWithVersionCheck_cases id version input resetOverdueFlag
      (System.run db requests fuel turns).state with
      ⟨silent, -⟩ | ⟨row, due, stored, -, expected, -, -⟩
    · simp [writesTicket, silent] at writes
    · exact ⟨row, stored, (checked_of_versionRead running met writes stored expected).1⟩

end Interleaved

/-! ### A version that was not read -/

section Schedules

open Sample

/-- A PATCH to `DONE` with the current version, and one to `IN_PROGRESS` with
the version after it. -/
def guessedVersion : Bool → Request
  | true => move 1 1 .done
  | false => move 1 2 .inProgress

/-- The two PATCHes, served from `oneTicket`. -/
def serveGuessedVersion (turns : List Bool) : System Bool :=
  System.run oneTicket guessedVersion (fun _ => 0) (turns.map .call)

/-- The second PATCH reads before the first writes and writes after it: the
ticket goes from `DONE` back to `IN_PROGRESS`. -/
theorem status_moves_backward :
    ¬ Forward 1 (serveGuessedVersion [false, true, true, true]).state
      (serveGuessedVersion ([false, true, true, true] ++ [false])).state := by
  decide +kernel

/-- One after the other, the second PATCH finds the ticket `DONE`. -/
theorem status_forward_one_by_one :
    let c := serveGuessedVersion ([true, true, true, true] ++ [false, false])
    (∀ id, Forward id (serveGuessedVersion [true, true, true, true]).state c.state) ∧
      ∀ entry ∈ c.trace, ∀ id version, IsTicketPatch id version entry.2 →
        ∃ row ∈ entry.2.state.tickets.get? id, row.status ≠ .done :=
  status_forward oneTicket guessedVersion _ ([true, true, true, true].map .call)
    ([false, false].map .call) (by decide +kernel)

end Schedules

end IssueFlow
