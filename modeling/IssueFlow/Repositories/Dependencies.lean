import IssueFlow.Repositories.Tickets

/-!
# The dependencies repository

The statements of `dependencies.repository.ts`. The table is a list of pairs
without duplicates; a pair says that its first ticket is blocked by its second.

## Main definitions

* `Db.blockedBy` — the relation stored in `ticket_dependencies`
* `Db.isUnresolved`, `Db.Unblocked` — open tickets, and tickets without open blockers
* `Db.DependenciesStored` — the foreign keys of the table
-/

namespace IssueFlow

open Store

/-- `ticket_id` is blocked by `blocker_id`. -/
def Db.blockedBy (db : Db) (ticketId blockerId : ℕ) : Prop :=
  ∃ row ∈ db.ticketDependencies, row.ticketId = ticketId ∧ row.blockerId = blockerId

instance (db : Db) (ticketId blockerId : ℕ) : Decidable (db.blockedBy ticketId blockerId) :=
  inferInstanceAs (Decidable (∃ row ∈ db.ticketDependencies,
    row.ticketId = ticketId ∧ row.blockerId = blockerId))

/-- Is the ticket live and not `DONE`? -/
def Db.isUnresolved (db : Db) (id : ℕ) : Bool :=
  (db.tickets.get? id).any fun row => row.isLive && row.status ≠ .done

/-- Is the ticket `DONE`, deleted or not? -/
def Db.isDone (db : Db) (id : ℕ) : Bool := (db.tickets.get? id).any fun row => row.status = .done

/-- Both ends of every dependency are stored tickets, as the foreign keys say. -/
def Db.DependenciesStored (db : Db) : Prop :=
  ∀ ticketId blockerId, db.blockedBy ticketId blockerId →
    (db.tickets.get? ticketId).isSome ∧ (db.tickets.get? blockerId).isSome

/-- No blocker of the ticket is live and not `DONE`. -/
def Db.Unblocked (db : Db) (ticketId : ℕ) : Prop :=
  ∀ blockerId, db.blockedBy ticketId blockerId → db.isUnresolved blockerId = false

/-- A blocker in the list of a ticket. -/
structure BlockerRow where
  id : ℕ
  title : String
  status : TicketStatus
  deriving DecidableEq, Repr

namespace DependenciesRepository

/-- `INSERT … ON CONFLICT DO NOTHING`: the check comes first, then the primary
key, then the references. The answer says whether a row was written. -/
def add (ticketId blockerId : ℕ) (db : Db) : Except PgError Bool × Db :=
  if ticketId = blockerId then (.error .checkViolation, db)
  else if db.blockedBy ticketId blockerId then (.ok false, db)
  else if (db.tickets.get? ticketId).isSome && (db.tickets.get? blockerId).isSome then
    (.ok true, { db with
      ticketDependencies := db.ticketDependencies ++ [⟨ticketId, blockerId, db.now⟩] })
  else (.error .foreignKeyViolation, db)

def remove (ticketId blockerId : ℕ) (db : Db) : Bool × Db :=
  (decide (db.blockedBy ticketId blockerId), { db with
    ticketDependencies := db.ticketDependencies.filter fun row =>
      ¬(row.ticketId = ticketId ∧ row.blockerId = blockerId) })

/-- The live blockers of a ticket, by id. -/
def listBlockers (ticketId : ℕ) (db : Db) : List BlockerRow :=
  (db.tickets.rows.filter fun row => db.blockedBy ticketId row.id && row.isLive).map
    fun row => ⟨row.id, row.title, row.status⟩

def blockerIdsOf (ticketId : ℕ) (db : Db) : List ℕ :=
  (db.ticketDependencies.filter fun row => row.ticketId = ticketId).map (·.blockerId)

/-- How many blockers of a ticket are live and not `DONE`. -/
def countUnresolvedBlockers (ticketId : ℕ) (db : Db) : ℕ :=
  ((blockerIdsOf ticketId db).filter fun id => db.isUnresolved id).length

@[simp] theorem mem_blockerIdsOf {ticketId blockerId : ℕ} {db : Db} :
    blockerId ∈ blockerIdsOf ticketId db ↔ db.blockedBy ticketId blockerId := by
  simp only [blockerIdsOf, Db.blockedBy, List.mem_map, List.mem_filter, decide_eq_true_eq,
    and_assoc]

theorem countUnresolvedBlockers_eq_zero {ticketId : ℕ} {db : Db} :
    countUnresolvedBlockers ticketId db = 0 ↔ db.Unblocked ticketId := by
  simp only [countUnresolvedBlockers, Db.Unblocked, List.length_eq_zero_iff,
    List.filter_eq_nil_iff, mem_blockerIdsOf, Bool.not_eq_true]

instance (db : Db) (ticketId : ℕ) : Decidable (db.Unblocked ticketId) :=
  decidable_of_iff _ countUnresolvedBlockers_eq_zero

/-- An insertion changes nothing or adds the one pair. -/
theorem add_blockedBy (ticketId blockerId : ℕ) (db : Db) {tail head : ℕ}
    (edge : (add ticketId blockerId db).2.blockedBy tail head) :
    db.blockedBy tail head ∨ tail = ticketId ∧ head = blockerId := by
  simp only [add] at edge
  split_ifs at edge
  · exact .inl edge
  · exact .inl edge
  · obtain ⟨row, member, ends⟩ := edge
    rcases List.mem_append.mp member with old | new
    · exact .inl ⟨row, old, ends⟩
    · obtain rfl := List.mem_singleton.mp new
      exact .inr ⟨ends.1.symm, ends.2.symm⟩
  · exact .inl edge

/-- A pair that was added refers to stored tickets. -/
theorem stored_of_add (ticketId blockerId : ℕ) (db : Db) {tail head : ℕ}
    (edge : (add ticketId blockerId db).2.blockedBy tail head) (new : ¬ db.blockedBy tail head) :
    (db.tickets.get? tail).isSome ∧ (db.tickets.get? head).isSome := by
  rcases add_blockedBy ticketId blockerId db edge with old | ⟨rfl, rfl⟩
  · exact absurd old new
  · simp only [add] at edge
    split_ifs at edge with same stored
    · exact absurd edge new
    · exact Bool.and_eq_true_iff.mp stored
    · exact absurd edge new

/-- A removal only removes pairs. -/
theorem remove_blockedBy (ticketId blockerId : ℕ) (db : Db) {tail head : ℕ}
    (edge : (remove ticketId blockerId db).2.blockedBy tail head) : db.blockedBy tail head := by
  obtain ⟨row, member, ends⟩ := edge
  exact ⟨row, (List.mem_filter.mp member).1, ends⟩

end DependenciesRepository

end IssueFlow
