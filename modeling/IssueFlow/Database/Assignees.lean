import IssueFlow.Database.UserTransitions

/-!
# Assignees are stored users

The foreign key of `tickets.assignee_id` as an invariant of the database: an
INSERT and an UPDATE look for the assignee they write, and the DELETE of a user
takes it from the tickets.

## Main definitions

* `AssigneesStored` — every assignee is a stored user

## Main results

* `assigneesStored_exec` — every statement keeps it
-/

namespace IssueFlow

open Store Semantics

/-- Every assignee is a stored user, and the keys of users are positive. -/
structure AssigneesStored (db : Db) : Prop where
  drawn : 0 < db.users.next
  positive : ∀ {id}, (db.users.get? id).isSome → 0 < id
  stored : ∀ {id row assignee}, db.tickets.get? id = some row → row.assigneeId = some assignee →
    (db.users.get? assignee).isSome

namespace AssigneesStored

theorem empty : AssigneesStored Db.empty where
  drawn := Nat.one_pos
  positive stored := nomatch stored
  stored found := nomatch found

variable {db : Db}

/-- Only the stored users and the tickets matter. -/
theorem congr {after : Db} (holds : AssigneesStored db) (drawn : 0 < after.users.next)
    (users : ∀ id, (after.users.get? id).isSome = (db.users.get? id).isSome)
    (tickets : ∀ id, after.tickets.get? id = db.tickets.get? id) : AssigneesStored after where
  drawn := drawn
  positive {id} stored := holds.positive (users id ▸ stored)
  stored {_ _ assignee} found assigned :=
    (users assignee).trans (holds.stored ((tickets _).symm.trans found) assigned)

/-- A ticket is written whose assignee is stored. -/
theorem set {row : TicketRow} (holds : AssigneesStored db)
    (assigned : row.assigneeId.all fun assignee => (db.users.get? assignee).isSome) :
    AssigneesStored { db with tickets := db.tickets.set row } where
  drawn := holds.drawn
  positive := holds.positive
  stored {id other assignee} found same := by
    rw [Table.get?_set] at found
    split_ifs at found
    · obtain ⟨old, -, rfl⟩ := Option.map_eq_some_iff.mp found
      rw [same] at assigned
      exact assigned
    · exact holds.stored found same

/-- The assignee a ticket has is stored. -/
theorem all {row : TicketRow} {id : ℕ} (holds : AssigneesStored db)
    (found : db.tickets.get? id = some row) :
    row.assigneeId.all fun assignee => (db.users.get? assignee).isSome := by
  cases assigned : row.assigneeId with
  | none => rfl
  | some assignee => exact holds.stored found assigned

end AssigneesStored

/-! ### Statements -/

variable [Postgres] {db : Db}

/-- A new ticket has an assignee that was looked for. -/
private theorem assigneesStored_createTicket (input : TicketInput) (holds : AssigneesStored db) :
    AssigneesStored (TicketsRepository.create input db).2 := by
  have skipped : AssigneesStored { db with tickets := db.tickets.skip } :=
    holds.congr holds.drawn (fun _ => rfl) fun _ => rfl
  rw [TicketsRepository.create_eq]
  cases TicketsRepository.dueInstant input.dueDate with
  | error exception => exact holds
  | ok due =>
      simp only
      split_ifs with null exist
      · exact skipped
      · refine ⟨holds.drawn, holds.positive, fun {id row assignee} found assigned => ?_⟩
        have keyed : ∀ id, Keyed.key (TicketsRepository.createdRow input due db.now id) = id :=
          fun _ => rfl
        have inserted : (db.tickets.insert _ keyed).get? id = _ := Table.get?_insert _ keyed
        rw [show _ = some row from found] at inserted
        split_ifs at inserted
        · obtain rfl := Option.some.inj inserted
          obtain ⟨-, all⟩ := Bool.and_eq_true_iff.mp exist
          have same : input.assigneeId.toOption = some assignee := assigned
          simp only [TicketsRepository.createdRow, same] at all
          exact all
        · exact holds.stored inserted.symm assigned
      · exact skipped

/-- A PATCH looks for an assignee that it changes. -/
private theorem assigneesStored_patch (id : ℕ) (expectedVersion : Option ℕ) (input : TicketUpdate)
    (resetOverdueFlag : Bool) (holds : AssigneesStored db) :
    AssigneesStored (TicketsRepository.updateWithVersionCheck id expectedVersion input
      resetOverdueFlag db).2 := by
  rw [TicketsRepository.updateWithVersionCheck_eq]
  cases TicketsRepository.dueInstant input.dueDate with
  | error exception => exact holds
  | ok due =>
      simp only
      cases matched : (TicketsRepository.findById id db).filter fun row =>
          expectedVersion = some row.version with
      | none => exact holds
      | some row =>
          obtain ⟨found, -⟩ := Option.filter_eq_some_iff.mp matched
          simp only
          split_ifs with overflows null exist
          · exact holds
          · exact holds
          · refine holds.set ?_
            rcases Bool.or_eq_true_iff.mp exist with kept | stored
            · rw [of_decide_eq_true kept]
              exact holds.all (Option.filter_eq_some_iff.mp found).1
            · exact stored
          · exact holds

private theorem assigneesStored_escalate (id : ℕ) (change : EscalationChange)
    (holds : AssigneesStored db) :
    AssigneesStored (TicketsRepository.applyEscalation id change db).2 := by
  rw [TicketsRepository.applyEscalation_eq]
  cases matched : (TicketsRepository.findById id db).filter fun row => row.status ≠ .done with
  | none => exact holds
  | some row =>
      obtain ⟨found, -⟩ := Option.filter_eq_some_iff.mp matched
      have stored := holds.all (Option.filter_eq_some_iff.mp found).1
      simp only
      split_ifs
      · exact holds
      · refine holds.set ?_
        cases change with
        | promote newPriority => exact stored
        | markOverdue => exact stored

omit [Postgres] in
private theorem assigneesStored_stamp (id : ℕ) (condition : TicketRow → Bool)
    (deletedAt : Option Timestamp) (holds : AssigneesStored db) :
    AssigneesStored (TicketsRepository.stamp id condition deletedAt db).2 := by
  rcases TicketsRepository.stamp_cases id condition deletedAt db with
    missed | ⟨row, matched, stamped⟩
  · rw [missed]
    exact holds
  · rw [stamped]
    have assigned := holds.all (Option.filter_eq_some_iff.mp matched).1
    exact holds.set assigned

omit [Postgres] in
/-- A user who is deleted is no assignee any more. -/
private theorem assigneesStored_deleteUser (user : ℕ) (holds : AssigneesStored db) :
    AssigneesStored (UsersRepository.delete user db).2 := by
  rcases UsersRepository.delete_cases user db with same | ⟨-, executed⟩
  · rw [same]
    exact holds
  · rw [executed]
    refine ⟨holds.drawn, fun {id} stored => ?_, fun {id row assignee} found assigned => ?_⟩
    · simp only [Table.get?_remove] at stored
      obtain ⟨kept, same⟩ := Option.isSome_iff_exists.mp stored
      rw [Option.filter_eq_some_iff] at same
      exact holds.positive (Option.isSome_iff_exists.mpr ⟨kept, same.1⟩)
    · simp only [UsersRepository.clearAssignee, Table.get?_update] at found
      obtain ⟨old, stored, rfl⟩ := Option.map_eq_some_iff.mp found
      split_ifs at assigned with cleared
      obtain ⟨kept, same⟩ := Option.isSome_iff_exists.mp (holds.stored stored assigned)
      have other : kept.id ≠ user := by
        have key : kept.id = assignee := Table.key_of_get? same
        rintro rfl
        exact cleared (by simp [assigned, key])
      simp [same, other]

/-- The users a statement leaves stored, tickets aside. -/
private theorem assigneesStored_users (statement : Statement) {after : Db}
    (executed : after = (exec statement db).2) (holds : AssigneesStored db)
    (kept : ∀ id, (db.users.get? id).isSome → (after.users.get? id).isSome)
    (tickets : ∀ id, after.tickets.get? id = db.tickets.get? id) : AssigneesStored after where
  drawn := holds.drawn.trans_le (executed ▸ next_users_le statement db)
  positive {id} stored := by
    have written : ((exec statement db).2.users.get? id).isSome := executed ▸ stored
    rcases user_stored_or_fresh written with old | fresh
    · exact holds.positive old
    · exact holds.drawn.trans_le fresh
  stored {id row assignee} found assigned :=
    kept assignee (holds.stored ((tickets id).symm.trans found) assigned)

/-- **Every statement keeps the assignees stored.** -/
theorem assigneesStored_exec (statement : Statement) (holds : AssigneesStored db) :
    AssigneesStored (exec statement db).2 := by
  cases statement with
  | select read => exact holds
  | command write =>
      have frame := write.exec_sameOutside db
      cases write with
      | createTicket input => exact assigneesStored_createTicket input holds
      | updateWithVersionCheck id expectedVersion input resetOverdueFlag =>
          exact assigneesStored_patch id expectedVersion input resetOverdueFlag holds
      | applyEscalation id change => exact assigneesStored_escalate id change holds
      | softDeleteTicket id => exact assigneesStored_stamp id _ _ holds
      | restoreTicket id => exact assigneesStored_stamp id _ _ holds
      | deleteUser id => exact assigneesStored_deleteUser id holds
      | createUser input =>
          refine assigneesStored_users (.command (.createUser input)) rfl holds ?_ ?_
          · intro id stored
            simp only [exec, Command.exec, UsersRepository.create]
            split_ifs
            · exact stored
            · exact Table.isSome_get?_insert _ (fun _ => rfl) stored
          · exact fun id => congrArg (Table.get? · id) (frame.tickets (by simp [Command.tables]))
      | updateUser target input =>
          refine assigneesStored_users (.command (.updateUser target input)) rfl holds ?_ ?_
          · intro id stored
            simp only [exec, Command.exec]
            rcases UsersRepository.update_cases target input db with same | ⟨old, -, written⟩
            · rw [same]
              exact stored
            · rw [written, Table.get?_set]
              split_ifs
              · rwa [Option.isSome_map]
              · exact stored
          · exact fun id => congrArg (Table.get? · id) (frame.tickets (by simp [Command.tables]))
      | _ =>
          -- The other writes touch neither table.
          have users := frame.users (by simp [Command.tables])
          have tickets := frame.tickets (by simp [Command.tables])
          exact holds.congr (users ▸ holds.drawn) (fun id => by rw [← users]; rfl)
            fun id => congrArg (Table.get? · id) tickets

end IssueFlow
