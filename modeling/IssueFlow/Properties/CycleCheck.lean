import IssueFlow.Graph.Acyclic
import IssueFlow.System.Sequential

/-!
# The cycle check

When nothing runs in between, the walk of `wouldCreateCycle` ends on every
stored graph, whether or not it has cycles already, and it answers whether the
blocker leads to the ticket. An add therefore succeeds exactly when the new
edge would not lie on a cycle.

## Main definitions

* `Exploring` — the invariant of the walk
* `EdgeAdded` — what an add does to the graph

## Main results

* `wouldCreateCycle_exact` — the answer of the check is reachability
* `dependency_added` — when an add succeeds, and what it changes
-/

namespace IssueFlow

open Store Semantics JavaScript IssueFlow.Graph Relation

/-! ### The walk -/

section Walk

variable {db : Db} {ticketId blockerId current : ℕ} {visited stack : List ℕ}

/-- The walk has popped `visited` and will pop `stack`: it only meets tickets
that the blocker leads to, and behind a visited ticket it has met everything. -/
structure Exploring (db : Db) (ticketId blockerId : ℕ) (visited stack : List ℕ) : Prop where
  reached : ∀ id ∈ stack, ReflTransGen db.blockedBy blockerId id
  closed : ∀ id ∈ visited, ∀ next, db.blockedBy id next → next ∈ visited ∨ next ∈ stack
  started : blockerId ∈ visited ∨ blockerId ∈ stack
  clear : ticketId ∉ visited

namespace Exploring

theorem start (db : Db) (ticketId blockerId : ℕ) :
    Exploring db ticketId blockerId [] [blockerId] where
  reached id member := by
    obtain rfl := List.mem_singleton.mp member
    exact .refl
  closed id member := by cases member
  started := .inr (List.mem_singleton_self _)
  clear member := by cases member

/-- A ticket that was visited before is only popped. -/
theorem skip (exploring : Exploring db ticketId blockerId visited (current :: stack))
    (old : current ∈ visited) : Exploring db ticketId blockerId visited stack where
  reached id member := exploring.reached id (List.mem_cons_of_mem _ member)
  closed id member next edge := by
    rcases exploring.closed id member next edge with seen | pending
    · exact .inl seen
    · rcases List.mem_cons.mp pending with rfl | later
      · exact .inl old
      · exact .inr later
  started := by
    rcases exploring.started with seen | pending
    · exact .inl seen
    · rcases List.mem_cons.mp pending with rfl | later
      · exact .inl old
      · exact .inr later
  clear := exploring.clear

/-- Visiting a ticket puts its unvisited blockers on the stack. -/
theorem visit (exploring : Exploring db ticketId blockerId visited (current :: stack))
    (other : current ≠ ticketId) :
    Exploring db ticketId blockerId (current :: visited)
      (((DependenciesRepository.blockerIdsOf current db).filter fun n =>
        n ∉ current :: visited).reverse ++ stack) where
  reached id member := by
    rcases List.mem_append.mp member with pushed | later
    · obtain ⟨edge, -⟩ := List.mem_filter.mp (List.mem_reverse.mp pushed)
      have toCurrent := exploring.reached current List.mem_cons_self
      exact toCurrent.tail (DependenciesRepository.mem_blockerIdsOf.mp edge)
    · exact exploring.reached id (List.mem_cons_of_mem _ later)
  closed id member next edge := by
    by_cases seen : next ∈ current :: visited
    · exact .inl seen
    · -- It is pushed now if it blocks the current ticket, and was pushed before otherwise.
      refine .inr (List.mem_append.mpr ?_)
      rcases List.mem_cons.mp member with rfl | earlier
      · left
        rw [List.mem_reverse, List.mem_filter]
        exact ⟨DependenciesRepository.mem_blockerIdsOf.mpr edge, decide_eq_true seen⟩
      · right
        simp only [List.mem_cons, not_or] at seen
        rcases exploring.closed id earlier next edge with old | pending
        · exact absurd old seen.2
        · exact (List.mem_cons.mp pending).resolve_left seen.1
  started := by
    rcases exploring.started with seen | pending
    · exact .inl (List.mem_cons_of_mem _ seen)
    · rcases List.mem_cons.mp pending with rfl | later
      · exact .inl List.mem_cons_self
      · exact .inr (List.mem_append_right _ later)
  clear member := by
    rcases List.mem_cons.mp member with same | old
    · exact other same.symm
    · exact exploring.clear old

/-- With an empty stack everything behind the blocker was visited. -/
theorem separated (exploring : Exploring db ticketId blockerId visited []) :
    ¬ ReflTransGen db.blockedBy blockerId ticketId := by
  have closed : ∀ id ∈ {id | id ∈ visited}, ∀ next, db.blockedBy id next →
      next ∈ {id | id ∈ visited} := by
    intro id member next edge
    exact (exploring.closed id member next edge).resolve_right List.not_mem_nil
  exact not_reaches_of_closed closed (exploring.started.resolve_right List.not_mem_nil)
    exploring.clear

end Exploring

variable [Postgres]

/-- What a walk answers, if it answers, is reachability. -/
theorem walk_found (fuel : ℕ) {found : Bool} {after : Db}
    (exploring : Exploring db ticketId blockerId visited stack)
    (returned : (DependenciesService.walk ticketId fuel visited stack).run exec db =
      (.ok found, after)) :
    found = true ↔ ReflTransGen db.blockedBy blockerId ticketId := by
  induction fuel generalizing visited stack with
  -- On the fuel: each clause of the walk keeps `Exploring`, and an empty stack means `separated`.
  | zero =>
      cases stack with
      | nil =>
          cases returned
          exact iff_of_false Bool.false_ne_true exploring.separated
      | cons current stack => cases returned
  | succ fuel ih =>
      cases stack with
      | nil =>
          cases returned
          exact iff_of_false Bool.false_ne_true exploring.separated
      | cons current stack =>
          rw [DependenciesService.walk] at returned
          split_ifs at returned with arrived old
          · cases returned
            exact iff_of_true rfl (arrived ▸ exploring.reached current List.mem_cons_self)
          · exact ih (exploring.skip old) returned
          · rw [run_select] at returned
            exact ih (exploring.visit arrived) returned

/-- **The cycle check is exact**: it ends, and it answers whether the blocker
leads to the ticket. -/
theorem wouldCreateCycle_exact (ticketId blockerId : ℕ) {fuel : ℕ} (enough : walkFuel db ≤ fuel) :
    ∃ found, (DependenciesService.wouldCreateCycle fuel ticketId blockerId).run exec db =
      (.ok found, db) ∧ (found = true ↔ ReflTransGen db.blockedBy blockerId ticketId) := by
  obtain ⟨found, returned⟩ := wouldCreateCycle_returns ticketId blockerId enough
  exact ⟨found, returned, walk_found fuel (.start db ticketId blockerId) returned⟩

end Walk

/-! ### Adding a dependency -/

section Add

variable {db : Db} {ticketId blockerId : ℕ}

/-- What an add on two live tickets of one project does to the graph. -/
structure EdgeAdded (db : Db) (ticketId blockerId : ℕ) (outcome : Except Exception Unit × Db) :
    Prop where
  succeeds : outcome.1 = .ok () ↔ ¬ ClosesCycle db.blockedBy ticketId blockerId
  added : outcome.1 = .ok () → ∀ tail head, outcome.2.blockedBy tail head ↔
    db.blockedBy tail head ∨ tail = ticketId ∧ head = blockerId
  refused : outcome.1 ≠ .ok () → outcome.2 = db
  acyclic : Acyclic db.blockedBy → Acyclic outcome.2.blockedBy
  again : Acyclic db.blockedBy → db.blockedBy ticketId blockerId → outcome = (.ok (), db)

/-- An edge of an acyclic graph does not lie on a cycle. -/
theorem not_closesCycle_of_blockedBy (acyclic : Acyclic db.blockedBy)
    (edge : db.blockedBy ticketId blockerId) : ¬ ClosesCycle db.blockedBy ticketId blockerId := by
  intro cycle
  exact acyclic ticketId (TransGen.head' edge (closesCycle_iff.mp cycle))

/-- An add that is refused. -/
theorem EdgeAdded.of_refused {exception : Exception}
    (cycle : ClosesCycle db.blockedBy ticketId blockerId) :
    EdgeAdded db ticketId blockerId (.error exception, db) where
  succeeds := iff_of_false (fun same => by cases same) (not_not.mpr cycle)
  added same := by cases same
  refused _ := rfl
  acyclic holds := holds
  again acyclic edge := absurd cycle (not_closesCycle_of_blockedBy acyclic edge)

/-- An add that leaves the edge behind, and adds it if it is new. -/
theorem EdgeAdded.of_inserted {after : Db}
    (separated : ¬ ReflTransGen db.blockedBy blockerId ticketId)
    (edges : ∀ tail head, after.blockedBy tail head ↔
      db.blockedBy tail head ∨ tail = ticketId ∧ head = blockerId)
    (again : db.blockedBy ticketId blockerId → after = db) :
    EdgeAdded db ticketId blockerId (.ok (), after) where
  succeeds := iff_of_true rfl fun cycle => separated (closesCycle_iff.mp cycle)
  added _ := edges
  refused failed := absurd rfl failed
  acyclic holds := (holds.insert separated).mono fun tail head => (edges tail head).mp
  again _ edge := by rw [again edge]

variable [Postgres]

/-- The INSERT of an add whose check has found nothing. -/
theorem DependenciesService.insertEdge_added (performedBy : ℕ) (distinct : ticketId ≠ blockerId)
    (ticketStored : (db.tickets.get? ticketId).isSome)
    (blockerStored : (db.tickets.get? blockerId).isSome)
    (separated : ¬ ReflTransGen db.blockedBy blockerId ticketId) :
    EdgeAdded db ticketId blockerId ((insertEdge ticketId blockerId performedBy).run exec db) := by
  unfold insertEdge
  rw [run_execute]
  simp only [Command.exec, DependenciesRepository.add, if_neg distinct]
  -- An edge that is there already is not inserted again.
  by_cases present : db.blockedBy ticketId blockerId
  · rw [if_pos present]
    refine .of_inserted separated (fun tail head => ?_) fun _ => rfl
    constructor
    · exact .inl
    · rintro (old | ⟨rfl, rfl⟩)
      · exact old
      · exact present
  · rw [if_neg present, if_pos (by rw [ticketStored, blockerStored]; rfl)]
    refine .of_inserted separated (fun tail head => ?_) fun edge => absurd edge present
    constructor
    · rintro ⟨row, member, rfl, rfl⟩
      rcases List.mem_append.mp member with old | new
      · exact .inl ⟨row, old, rfl, rfl⟩
      · obtain rfl := List.mem_singleton.mp new
        exact .inr ⟨rfl, rfl⟩
    · rintro (⟨row, member, ends⟩ | ⟨rfl, rfl⟩)
      · exact ⟨row, List.mem_append_left _ member, ends⟩
      · exact ⟨_, List.mem_append_right _ (List.mem_singleton_self _), rfl, rfl⟩

/-- An add on two live tickets of one project, with nothing in between. -/
theorem DependenciesService.add_added (performedBy : ℕ) {fuel : ℕ} (enough : walkFuel db ≤ fuel)
    {ticket blocker : TicketRow}
    (foundTicket : TicketsRepository.findById ticketId db = some ticket)
    (foundBlocker : TicketsRepository.findById blockerId db = some blocker)
    (together : ticket.projectId = blocker.projectId) :
    EdgeAdded db ticketId blockerId
      ((add fuel ticketId blockerId performedBy).run exec db) := by
  obtain ⟨ticketStored, -⟩ := Option.filter_eq_some_iff.mp foundTicket
  obtain ⟨blockerStored, -⟩ := Option.filter_eq_some_iff.mp foundBlocker
  obtain ⟨found, returned, exact⟩ := wouldCreateCycle_exact ticketId blockerId enough
  unfold add
  split_ifs with self
  · -- The edge from a ticket to itself is a cycle.
    exact .of_refused (self ▸ ReflTransGen.refl)
  rw [run_select, Query.eval, foundTicket]
  simp only
  rw [run_select, Query.eval, foundBlocker]
  simp only [together, ne_eq, not_true_eq_false, if_false]
  rw [Program.run_bind, returned]
  cases found with
  | true => exact .of_refused (closesCycle_iff.mpr (exact.mp rfl))
  | false =>
      have separated : ¬ ReflTransGen db.blockedBy blockerId ticketId :=
        fun path => Bool.false_ne_true (exact.mpr path)
      exact insertEdge_added performedBy self (by rw [ticketStored]; rfl)
        (by rw [blockerStored]; rfl) separated

/-- **The cycle check is exact, and adds rely on it.** On every stored graph the
walk ends and answers whether the blocker leads to the ticket. With nothing in
between, an add on two live tickets of one project succeeds exactly when its
edge would not lie on a cycle, and it adds that edge and no other. -/
theorem dependency_added (db : Db) (fuel : ℕ) (enough : walkFuel db ≤ fuel)
    (ticketId blockerId : ℕ) :
    (∃ found, (DependenciesService.wouldCreateCycle fuel ticketId blockerId).run exec db =
      (.ok found, db) ∧ (found = true ↔ ReflTransGen db.blockedBy blockerId ticketId)) ∧
    ∀ ticket blocker, TicketsRepository.findById ticketId db = some ticket →
      TicketsRepository.findById blockerId db = some blocker →
      ticket.projectId = blocker.projectId → ∀ performedBy,
        EdgeAdded db ticketId blockerId
          ((DependenciesService.add fuel ticketId blockerId performedBy).run exec db) :=
  ⟨wouldCreateCycle_exact ticketId blockerId enough,
    fun _ _ foundTicket foundBlocker together performedBy =>
      DependenciesService.add_added performedBy enough foundTicket foundBlocker together⟩

end Add

section Example

open Sample

/-- Two tickets of one project without dependencies. -/
theorem dependency_added_twoTickets :
    walkFuel twoTickets ≤ 2 ∧
      EdgeAdded twoTickets 1 2 ((DependenciesService.add 2 1 2 1).run exec twoTickets) := by
  have enough : walkFuel twoTickets ≤ 2 := by decide +kernel
  let ticket (id : ℕ) : TicketRow :=
    ⟨id, "Ticket", none, .todo, .medium, .bug, 1, none, none, false, 1, none, 0, 0⟩
  exact ⟨enough, (dependency_added twoTickets 2 enough 1 2).2 (ticket 1) (ticket 2)
    (by decide +kernel) (by decide +kernel) rfl 1⟩

end Example

end IssueFlow
