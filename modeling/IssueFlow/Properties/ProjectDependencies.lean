import IssueFlow.System.Sequential

/-!
# Dependencies stay within a project

The schema does not say that a dependency joins tickets of one project; `add`
checks it on rows it has read before the INSERT. What it has read stays true:
a stored ticket is never removed and never moves to another project.

## Main definitions

* `WithinProjects` — every dependency joins two stored tickets of one project
* `TicketsPlaced` — stored tickets stay stored, in their projects
* `SeenTogether` — an INSERT follows reads that saw both tickets in one project

## Main results

* `dependencies_within_projects` — no schedule of requests stores another dependency
-/

namespace IssueFlow

open Store Semantics JavaScript

/-- Every dependency joins two distinct stored tickets of one project. -/
def WithinProjects (db : Db) : Prop :=
  ∀ ticketId blockerId, db.blockedBy ticketId blockerId →
    ticketId ≠ blockerId ∧ ∃ ticket blocker, db.tickets.get? ticketId = some ticket ∧
      db.tickets.get? blockerId = some blocker ∧ ticket.projectId = blocker.projectId

theorem withinProjects_empty : WithinProjects Db.empty := by
  rintro ticketId blockerId ⟨row, member, -⟩
  cases member

/-- Stored tickets stay stored, in their projects. -/
def TicketsPlaced (before after : Db) : Prop :=
  ∀ id row, before.tickets.get? id = some row →
    ∃ row', after.tickets.get? id = some row' ∧ row'.projectId = row.projectId

namespace TicketsPlaced

variable {first second third : Db}

theorem refl (db : Db) : TicketsPlaced db db := fun _ row found => ⟨row, found, rfl⟩

theorem trans (earlier : TicketsPlaced first second) (later : TicketsPlaced second third) :
    TicketsPlaced first third := by
  intro id row found
  obtain ⟨middle, foundMiddle, sameMiddle⟩ := earlier id row found
  obtain ⟨last, foundLast, sameLast⟩ := later id middle foundMiddle
  exact ⟨last, foundLast, sameLast.trans sameMiddle⟩

/-- **Tickets are placed for good**, whatever the statement. -/
theorem exec [Postgres] (statement : Statement) (db : Db) :
    TicketsPlaced db (exec statement db).2 := by
  intro id row found
  obtain ⟨row', found', transition⟩ := ticket_transition statement found
  exact ⟨row', found', transition.projectId⟩

end TicketsPlaced

section Evidence

variable [Postgres]

/-- An INSERT of a dependency follows reads of two tickets, which saw them in
one project. -/
def SeenTogether (events : History) : Statement → Prop
  | .command (.addDependency ticketId blockerId) =>
      ticketId ≠ blockerId ∧ ∃ ticket blocker,
        Saw events (.findTicketById ticketId) (some ticket) ∧
        Saw events (.findTicketById blockerId) (some blocker) ∧
        ticket.projectId = blocker.projectId
  | _ => True

theorem seenTogether_of_logs {action : AuditAction} {entityType : AuditEntity} {write : Command}
    {events : History} (logs : Logs action entityType write) :
    SeenTogether events (.command write) := by
  obtain ⟨input, rfl, -⟩ := logs
  trivial

/-- **Adding a dependency** reads both tickets first. -/
theorem DependenciesService.add_seenTogether (fuel ticketId blockerId performedBy : ℕ) :
    (add fuel ticketId blockerId performedBy).Outline exec SeenTogether (fun _ _ => True) [] := by
  unfold add
  split_ifs with self
  · trivial
  refine (outline_select _ _).mpr ⟨trivial, fun db => ?_⟩
  cases foundTicket : TicketsRepository.findById ticketId db with
  | none =>
      simp only [Query.eval, foundTicket]
      trivial
  | some ticket =>
      simp only [Query.eval, foundTicket]
      refine (outline_select _ _).mpr ⟨trivial, fun db' => ?_⟩
      cases foundBlocker : TicketsRepository.findById blockerId db' with
      | none =>
          simp only [Query.eval, foundBlocker]
          trivial
      | some blocker =>
          simp only [Query.eval, foundBlocker]
          split_ifs with apart
          · trivial
          -- The walk adds reads, and these keep what was seen.
          let seen (events : History) : Prop :=
            Saw events (.findTicketById ticketId) (some ticket) ∧
              Saw events (.findTicketById blockerId) (some blocker)
          have sawBoth : seen [⟨.select (.findTicketById blockerId), db'⟩,
              ⟨.select (.findTicketById ticketId), db⟩] :=
            ⟨⟨db, by simp, foundTicket⟩, ⟨db', by simp, foundBlocker⟩⟩
          refine (walk_reads ..).outline_bind seen ?_ sawBoth ?_ fun _ _ _ => trivial
          · rintro events op ⟨sawTicket, sawBlocker⟩ ⟨read, rfl⟩
            exact ⟨trivial, fun _ => ⟨sawTicket.cons, sawBlocker.cons⟩⟩
          · rintro events creates ⟨sawTicket, sawBlocker⟩
            cases creates with
            | true => trivial
            | false =>
                refine (outline_execute _ _).mpr ⟨?_, fun db => ?_⟩
                · exact ⟨self, ticket, blocker, sawTicket, sawBlocker, not_not.mp apart⟩
                · split
                  · split_ifs
                    · exact outline_of_only (fun _ _ => trivial) (writing_log (logs _))
                        fun _ _ => seenTogether_of_logs
                    · trivial
                  · trivial

variable [Bcrypt] [Unicode]

/-- Every request inserts dependencies only after it has read both tickets. -/
theorem Request.seenTogether (request : Request) (fuel : ℕ) :
    (request.program fuel).Outline exec SeenTogether (fun _ _ => True) [] := by
  by_cases adds : ∃ ticketId blockerId performedBy,
      request = .addDependency ticketId blockerId performedBy
  · obtain ⟨ticketId, blockerId, performedBy, rfl⟩ := adds
    exact (Program.outline_map _ _ _).mpr (DependenciesService.add_seenTogether ..)
  · refine outline_of_only (fun _ _ => trivial) (request.only fuel) fun events write may => ?_
    cases write with
    | addDependency ticketId blockerId =>
        obtain ⟨performedBy, same⟩ := Request.mayWrite_addDependency may
        exact (adds ⟨ticketId, blockerId, performedBy, same⟩).elim
    | _ => trivial

end Evidence

section Interleaved

variable [Postgres]

/-- A statement keeps dependencies within projects, if an INSERT joins two
stored tickets of one project. -/
theorem withinProjects_exec {db : Db} {statement : Statement} (within : WithinProjects db)
    (inserted : ∀ ticketId blockerId, statement = .command (.addDependency ticketId blockerId) →
      ticketId ≠ blockerId ∧ ∃ ticket blocker, db.tickets.get? ticketId = some ticket ∧
        db.tickets.get? blockerId = some blocker ∧ ticket.projectId = blocker.projectId) :
    WithinProjects (exec statement db).2 := by
  intro ticketId blockerId edge
  obtain ⟨distinct, ticket, blocker, foundTicket, foundBlocker, together⟩ :=
    (blockedBy_of_exec edge).elim (within ticketId blockerId) (inserted ticketId blockerId)
  obtain ⟨ticket', foundTicket', sameTicket⟩ := TicketsPlaced.exec statement db _ _ foundTicket
  obtain ⟨blocker', foundBlocker', sameBlocker⟩ := TicketsPlaced.exec statement db _ _ foundBlocker
  exact ⟨distinct, ticket', blocker', foundTicket', foundBlocker',
    sameTicket.trans (together.trans sameBlocker.symm)⟩

/-- A ticket that was read is stored in the state that the read has led to. -/
theorem stored_of_saw {events : History} {db : Db} {id : ℕ} {row : TicketRow}
    (placed : ∀ event ∈ events, TicketsPlaced event.state db)
    (saw : Saw events (.findTicketById id) (some row)) :
    ∃ row', db.tickets.get? id = some row' ∧ row'.projectId = row.projectId := by
  obtain ⟨seenIn, member, answer⟩ := saw
  have found : (seenIn.tickets.get? id).filter TicketRow.isLive = some row := answer
  exact placed _ member id row (Option.filter_eq_some_iff.mp found).1

variable [Bcrypt] [Unicode] {ι : Type} [DecidableEq ι]

/-- Over every schedule, dependencies that are within projects stay so. -/
theorem withinProjects_run {db : Db} (within : WithinProjects db) (requests : ι → Request)
    (fuel : ι → ℕ) (turns : List (Turn ι ℕ)) :
    WithinProjects (System.run db requests fuel turns).state := by
  have outlined : (System.start db requests fuel).Outlined exec
      (fun _ => SeenTogether) fun _ _ _ => True :=
    fun thread => (requests thread).seenTogether (fuel thread)
  -- Every state that a statement was sent in has its tickets placed for good.
  suffices kept : WithinProjects (System.run db requests fuel turns).state ∧
      ∀ entry ∈ (System.run db requests fuel turns).trace,
        TicketsPlaced entry.2.state (System.run db requests fuel turns).state from kept.1
  refine outlined.play_invariant
    (fun c => WithinProjects c.state ∧ ∀ entry ∈ c.trace, TicketsPlaced entry.2.state c.state)
    ⟨within, fun entry member => by cases member⟩ ?_ ?_ turns
  · rintro c thread statement next ⟨within, placed⟩ - sends
    refine ⟨withinProjects_exec within ?_, ?_⟩
    · rintro ticketId blockerId rfl
      obtain ⟨distinct, ticket, blocker, sawTicket, sawBlocker, together⟩ := sends
      have placedHistory : ∀ event ∈ c.history thread, TicketsPlaced event.state c.state :=
        fun event member => placed (thread, event) (Config.mem_history.mp member)
      obtain ⟨ticket', foundTicket, sameTicket⟩ := stored_of_saw placedHistory sawTicket
      obtain ⟨blocker', foundBlocker, sameBlocker⟩ := stored_of_saw placedHistory sawBlocker
      exact ⟨distinct, ticket', blocker', foundTicket, foundBlocker,
        sameTicket.trans (together.trans sameBlocker.symm)⟩
    · intro entry member
      rcases List.mem_cons.mp member with rfl | earlier
      · exact TicketsPlaced.exec statement c.state
      · exact (placed entry earlier).trans (TicketsPlaced.exec statement c.state)
  · exact fun c elapsed holds => holds

/-- **Dependencies never cross projects.** However requests are interleaved,
every stored dependency joins two distinct stored tickets of one project. -/
theorem dependencies_within_projects (requests : ι → Request) (fuel : ι → ℕ)
    (turns : List (Turn ι ℕ)) :
    WithinProjects (System.run Db.empty requests fuel turns).state :=
  withinProjects_run withinProjects_empty requests fuel turns

end Interleaved

end IssueFlow
