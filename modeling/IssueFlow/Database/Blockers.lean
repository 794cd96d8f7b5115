import IssueFlow.Database.Transitions

/-!
# Unresolved blockers

What can make a ticket an unresolved blocker of another: a new dependency, a
restored ticket, or a ticket that is moved out of `DONE`. No other statement
does, and only a PATCH moves a ticket to `DONE`.

## Main definitions

* `GivesBlocker` — the statements that make a ticket an unresolved blocker
* `OverBlocker` — a `DONE` ticket with an unresolved blocker

## Main results

* `unresolved_of_exec` — no other statement does
* `patch_of_resolved` — only a PATCH moves a ticket to `DONE`
* `overBlocker_of_exec` — where a `DONE` ticket with an unresolved blocker comes from
-/

namespace IssueFlow

open Store Semantics

/-- A dependency on an unresolved ticket is inserted, a blocker that is not
`DONE` is restored, or a blocker that is `DONE` is moved out of it. -/
def GivesBlocker (id blockerId : ℕ) (event : Event Statement Db) : Prop :=
  match event.op with
  | .command (.addDependency ticketId head) =>
      ticketId = id ∧ head = blockerId ∧ event.state.isUnresolved blockerId
  | .command (.restoreTicket target) =>
      target = blockerId ∧ event.state.blockedBy id blockerId ∧
        ∃ row ∈ event.state.tickets.get? blockerId, row.isLive = false ∧ row.status ≠ .done
  | .command (.updateWithVersionCheck target _ input _) =>
      target = blockerId ∧ event.state.blockedBy id blockerId ∧
        ∃ row ∈ event.state.tickets.get? blockerId,
          row.isLive ∧ row.status = .done ∧ input.status.getD row.status ≠ .done
  | _ => False

instance (id blockerId : ℕ) (event : Event Statement Db) :
    Decidable (GivesBlocker id blockerId event) := by
  unfold GivesBlocker
  split <;> infer_instance

/-- The ticket that a statement may make a blocker. -/
def Statement.blocker? : Statement → Option ℕ
  | .command (.addDependency _ blockerId) => some blockerId
  | .command (.restoreTicket id) => some id
  | .command (.updateWithVersionCheck id _ _ _) => some id
  | _ => none

theorem GivesBlocker.mem_blocker? {id blockerId : ℕ} {event : Event Statement Db}
    (gives : GivesBlocker id blockerId event) : blockerId ∈ event.op.blocker? := by
  obtain ⟨op, db⟩ := event
  unfold GivesBlocker at gives
  split at gives
  · rename_i sent
    obtain rfl : op = _ := sent
    exact congrArg some gives.2.1
  · rename_i sent
    obtain rfl : op = _ := sent
    exact congrArg some gives.1
  · rename_i sent
    obtain rfl : op = _ := sent
    exact congrArg some gives.1
  · exact gives.elim

/-- A `DONE` ticket, deleted or not, and an unresolved blocker of it. -/
structure OverBlocker (db : Db) (id blockerId : ℕ) : Prop where
  edge : db.blockedBy id blockerId
  resolved : db.isDone id
  unresolved : db.isUnresolved blockerId

section Statements

variable {db : Db} {id blockerId : ℕ}

theorem isUnresolved_eq_false {row : TicketRow} (stored : db.tickets.get? id = some row) :
    db.isUnresolved id = false ↔ (row.isLive → row.status = .done) := by
  simp [Db.isUnresolved, stored]

variable [Postgres]

/-- The ends of a dependency were stored before. -/
theorem stored_of_blockedBy_exec {statement : Statement} (stored : db.DependenciesStored)
    (edge : (exec statement db).2.blockedBy id blockerId) :
    (db.tickets.get? id).isSome ∧ (db.tickets.get? blockerId).isSome := by
  by_cases old : db.blockedBy id blockerId
  · exact stored id blockerId old
  · rcases blockedBy_of_exec edge with same | rfl
    · exact absurd same old
    · exact DependenciesRepository.stored_of_add id blockerId db edge old

/-- Tickets are never removed, and a new dependency refers to stored ones. -/
theorem dependenciesStored_exec (statement : Statement) (stored : db.DependenciesStored) :
    (exec statement db).2.DependenciesStored := by
  intro ticketId blockerId edge
  have before := stored_of_blockedBy_exec stored edge
  have stays {id : ℕ} (found : (db.tickets.get? id).isSome) :
      ((exec statement db).2.tickets.get? id).isSome := by
    obtain ⟨row, found⟩ := Option.isSome_iff_exists.mp found
    obtain ⟨row', found', -⟩ := ticket_transition statement found
    exact Option.isSome_iff_exists.mpr ⟨row', found'⟩
  exact ⟨stays before.1, stays before.2⟩

/-- What becomes of a blocker that is deleted or `DONE`. -/
theorem resolved_of_transition {statement : Statement} {row row' : TicketRow}
    (edge : db.blockedBy id row.id) (stored : db.tickets.get? row.id = some row)
    (transition : TicketTransition db statement row row')
    (quiet : ¬ GivesBlocker id row.id ⟨statement, db⟩)
    (resolved : row.isLive → row.status = .done) : row'.isLive → row'.status = .done := by
  cases transition with
  | kept silent => exact resolved
  | patched live version bound writes =>
      intro _
      by_contra reopened
      exact quiet ⟨rfl, edge, row, stored, live, resolved live, reopened⟩
  | escalated live unresolved writes => exact absurd (resolved live) unresolved
  | softDeleted live => exact fun live' => nomatch live'
  | restored deleted =>
      intro _
      by_contra unresolved
      exact quiet ⟨rfl, edge, row, stored, deleted, unresolved⟩
  | unassigned assigned removed => exact resolved

/-- **An unresolved blocker** was one before, unless the statement gave it. -/
theorem unresolved_of_exec {statement : Statement} (stored : db.DependenciesStored)
    (edge : (exec statement db).2.blockedBy id blockerId)
    (unresolved : (exec statement db).2.isUnresolved blockerId)
    (quiet : ¬ GivesBlocker id blockerId ⟨statement, db⟩) :
    db.blockedBy id blockerId ∧ db.isUnresolved blockerId := by
  rcases blockedBy_of_exec edge with old | rfl
  · refine ⟨old, ?_⟩
    obtain ⟨row, found⟩ := Option.isSome_iff_exists.mp (stored id blockerId old).2
    obtain rfl : row.id = blockerId := Table.key_of_get? found
    obtain ⟨row', found', transition⟩ := ticket_transition statement found
    by_contra resolved
    have before := (isUnresolved_eq_false found).mp (by simpa using resolved)
    have after := resolved_of_transition old found transition quiet before
    rw [(isUnresolved_eq_false found').mpr after] at unresolved
    cases unresolved
  · -- The tickets are the same, so the new blocker was unresolved before.
    have tickets : (exec (.command (.addDependency id blockerId)) db).2.tickets = db.tickets :=
      (Command.exec_sameOutside (.addDependency id blockerId) db).tickets (by simp [Command.tables])
    rw [Db.isUnresolved, tickets] at unresolved
    exact absurd ⟨rfl, rfl, unresolved⟩ quiet

/-- A statement that gives a ticket no unresolved blocker leaves it without. -/
theorem unblocked_exec {statement : Statement} (stored : db.DependenciesStored)
    (unblocked : db.Unblocked id)
    (quiet : ∀ blockerId, ¬ GivesBlocker id blockerId ⟨statement, db⟩) :
    (exec statement db).2.Unblocked id := by
  intro blockerId edge
  by_contra unresolved
  have before := unresolved_of_exec stored edge (by simpa using unresolved) (quiet blockerId)
  rw [unblocked blockerId before.1] at before
  cases before.2

/-- A ticket that moves to `DONE` is written by a PATCH to `DONE`. -/
theorem patch_of_resolved {statement : Statement} {row row' : TicketRow}
    (transition : TicketTransition db statement row row') (unresolved : row.status ≠ .done)
    (resolved : row'.status = .done) :
    ∃ version input resetOverdueFlag,
      statement = .command (.updateWithVersionCheck row.id version input resetOverdueFlag) ∧
        writesTicket row.id ⟨statement, db⟩ ∧ input.status = .value .done := by
  cases transition with
  | @patched _ version input due resetOverdueFlag live expected bound writes =>
      refine ⟨version, input, resetOverdueFlag, rfl, writes, ?_⟩
      change input.status.getD row.status = .done at resolved
      -- Only a supplied status replaces the one of the row.
      cases status : input.status with
      | value after =>
          rw [status] at resolved
          exact congrArg _ resolved
      | undefined =>
          rw [status] at resolved
          exact absurd resolved unresolved
      | null =>
          rw [status] at resolved
          exact absurd resolved unresolved
  | kept silent => exact absurd resolved unresolved
  | @escalated _ change live unresolved' writes =>
      cases change <;> exact absurd resolved unresolved
  | softDeleted live => exact absurd resolved unresolved
  | restored deleted => exact absurd resolved unresolved
  | unassigned assigned removed => exact absurd resolved unresolved

/-- **Where a `DONE` ticket with an unresolved blocker comes from**: it was there
before, the statement gave the blocker, or the statement moved the ticket to
`DONE` over it. -/
theorem overBlocker_of_exec {statement : Statement} (stored : db.DependenciesStored)
    (violated : OverBlocker (exec statement db).2 id blockerId) :
    OverBlocker db id blockerId ∨ GivesBlocker id blockerId ⟨statement, db⟩ ∧ db.isDone id ∨
      ∃ version input resetOverdueFlag,
        statement = .command (.updateWithVersionCheck id version input resetOverdueFlag) ∧
          input.status = .value .done ∧ ¬ db.Unblocked id := by
  -- Was the ticket done before, or is it moved to `DONE` now?
  by_cases resolved : db.isDone id
  · by_cases gives : GivesBlocker id blockerId ⟨statement, db⟩
    · exact .inr (.inl ⟨gives, resolved⟩)
    · obtain ⟨edge, unresolved⟩ := unresolved_of_exec stored violated.edge violated.unresolved gives
      exact .inl ⟨edge, resolved, unresolved⟩
  · obtain ⟨row, found⟩ :=
      Option.isSome_iff_exists.mp (stored_of_blockedBy_exec stored violated.edge).1
    obtain rfl : row.id = id := Table.key_of_get? found
    obtain ⟨row', found', transition⟩ := ticket_transition statement found
    have unresolved : row.status ≠ .done := by simpa [Db.isDone, found] using resolved
    have done : row'.status = .done := by simpa [Db.isDone, found'] using violated.resolved
    obtain ⟨version, input, resetOverdueFlag, rfl, -, toDone⟩ :=
      patch_of_resolved transition unresolved done
    -- A move to `DONE` does not also give a blocker.
    have quiet : ¬ GivesBlocker row.id blockerId ⟨.command (.updateWithVersionCheck row.id version
        input resetOverdueFlag), db⟩ := by
      rintro ⟨-, -, blocker, -, -, -, reopened⟩
      rw [toDone] at reopened
      exact reopened rfl
    obtain ⟨edge, open_⟩ := unresolved_of_exec stored violated.edge violated.unresolved quiet
    refine .inr (.inr ⟨version, input, resetOverdueFlag, rfl, toDone, fun unblocked => ?_⟩)
    rw [unblocked blockerId edge] at open_
    cases open_

end Statements

end IssueFlow
