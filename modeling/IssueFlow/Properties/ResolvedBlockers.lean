import IssueFlow.Database.Blockers
import IssueFlow.System.Sequential

/-!
# Resolved tickets and their blockers

The blocker rule belongs to the transition to `DONE`, not to the dependency.
When requests are served one at a time, a `DONE` ticket has an open blocker only
because a dependency was added to it while it was `DONE`, or because a deleted
blocker was restored.

## Main definitions

* `ResolvedBlockers` — no live `DONE` ticket has an open blocker
* `GivesOver` — the requests that give a `DONE` ticket an open blocker

## Main results

* `overBlocker_of_serve` — no other request does
* `resolved_blockers` — where an open blocker of a `DONE` ticket comes from
* `resolved_over_blocker` — a dependency added to a `DONE` ticket
-/

namespace IssueFlow

open Store Semantics JavaScript

/-- No live `DONE` ticket has a blocker that is live and not `DONE`. -/
def ResolvedBlockers (db : Db) : Prop :=
  ∀ id, ∀ row ∈ TicketsRepository.findById id db, row.status = .done → db.Unblocked id

/-- The request makes a `DONE` ticket depend on an open one, or it restores a
ticket that is not `DONE` and blocks a `DONE` one. -/
def GivesOver (request : Request) (db : Db) (id blockerId : ℕ) : Prop :=
  db.isDone id ∧
    match request with
    | .addDependency ticketId head _ => ticketId = id ∧ head = blockerId ∧ db.isUnresolved blockerId
    | .restoreTicket target _ =>
        target = blockerId ∧ db.blockedBy id blockerId ∧
          ∃ row ∈ db.tickets.get? blockerId, row.isLive = false ∧ row.status ≠ .done
    | _ => False

section Sequential

variable [Postgres] {id blockerId : ℕ}

/-- The statements of a request that is served alone give a `DONE` ticket an
open blocker only where the request is one that does. -/
theorem givesOver_of_sends {request : Request} {events : History} {statement : Statement}
    {db state : Db} (readsAt : ReadsAt db events state) (sends : Sends request events statement)
    (gives : GivesBlocker id blockerId ⟨statement, state⟩) (done : state.isDone id) :
    GivesOver request db id blockerId := by
  unfold GivesBlocker at gives
  split at gives
  · rename_i sent
    obtain rfl : statement = _ := sent
    obtain ⟨performedBy, rfl, reads, -⟩ := sends.walked
    obtain ⟨rfl, -⟩ := readsAt reads
    exact ⟨done, gives⟩
  · rename_i sent
    obtain rfl : statement = _ := sent
    obtain ⟨performedBy, rfl, reads⟩ := sends.restored
    obtain ⟨rfl, -⟩ := readsAt reads
    exact ⟨done, gives⟩
  · -- A PATCH has seen that its ticket is not `DONE`.
    rename_i sent
    obtain rfl : statement = _ := sent
    obtain ⟨before, reads, saw, unresolved, -⟩ := sends.checked
    obtain ⟨rfl, -, row, found, -, resolved, -⟩ := gives
    have seen : TicketsRepository.findById _ state = some before := readsAt.eval reads saw
    obtain ⟨stored, -⟩ := Option.filter_eq_some_iff.mp seen
    obtain rfl : row = before := Option.some.inj (found.symm.trans stored)
    exact absurd resolved unresolved
  · exact gives.elim

variable [Bcrypt] [Unicode]

/-- A request that is served alone leaves an open blocker of a `DONE` ticket only
where there was one, or where the request is one that gives it. -/
theorem overBlocker_of_serve {request : Request} {db : Db} (stored : db.DependenciesStored)
    (violated : OverBlocker (serve request db).2 id blockerId) :
    OverBlocker db id blockerId ∨ GivesOver request db id blockerId := by
  have served : (serve request db).2.DependenciesStored ∧
      (OverBlocker (serve request db).2 id blockerId →
        OverBlocker db id blockerId ∨ GivesOver request db id blockerId) := by
    refine serve_invariant (fun state => state.DependenciesStored ∧
      (OverBlocker state id blockerId →
        OverBlocker db id blockerId ∨ GivesOver request db id blockerId)) ⟨stored, .inl⟩ ?_
    rintro events statement state readsAt ⟨holds, explained⟩ sends
    refine ⟨dependenciesStored_exec statement holds, fun after => ?_⟩
    obtain before | ⟨gives, done⟩ | ⟨version, input, resetOverdueFlag, rfl, toDone, blocked⟩ :=
      overBlocker_of_exec holds after
    · exact explained before
    · exact .inr (givesOver_of_sends readsAt sends gives done)
    · -- A PATCH to `DONE` has counted the blockers and found none.
      obtain ⟨-, reads, -, -, -, blockers⟩ := sends.checked
      have none : DependenciesRepository.countUnresolvedBlockers id state = 0 :=
        readsAt.eval reads (blockers toDone)
      exact absurd (DependenciesRepository.countUnresolvedBlockers_eq_zero.mp none) blocked
  exact served.2 violated

theorem serveAll_dependenciesStored (inputs : List Input) :
    (serveAll inputs Db.empty).DependenciesStored := by
  refine serveAll_kept Db.DependenciesStored ?_ ?_ ?_ inputs
  · exact fun _ _ ⟨_, member, _⟩ => nomatch member
  · exact fun statement db holds => dependenciesStored_exec statement holds
  · exact fun elapsed db holds => holds

/-- **Where an open blocker of a `DONE` ticket comes from**, in every state that
requests reach one at a time. -/
theorem resolved_blockers (inputs : List Input)
    (violated : OverBlocker (serveAll inputs Db.empty) id blockerId) :
    ∃ earlier request later, inputs = earlier ++ .request request :: later ∧
      GivesOver request (serveAll earlier Db.empty) id blockerId ∧
      OverBlocker (serve request (serveAll earlier Db.empty)).2 id blockerId := by
  induction inputs using List.reverseRecOn with
  | nil =>
      obtain ⟨_, member, _⟩ := violated.edge
      cases member
  | append_singleton inputs input ih =>
      -- The pair was there before the last input, or the last input gave rise to it.
      have before_or : OverBlocker (serveAll inputs Db.empty) id blockerId ∨
          ∃ request, input = .request request ∧
            GivesOver request (serveAll inputs Db.empty) id blockerId ∧
            OverBlocker (serve request (serveAll inputs Db.empty)).2 id blockerId := by
        rw [serveAll_append] at violated
        cases input with
        | request request =>
            rcases overBlocker_of_serve (serveAll_dependenciesStored inputs) violated with
              before | gives
            · exact .inl before
            · exact .inr ⟨request, rfl, gives, violated⟩
        | advance elapsed => exact .inl ⟨violated.edge, violated.resolved, violated.unresolved⟩
      rcases before_or with before | ⟨request, rfl, gives, after⟩
      · obtain ⟨earlier, request, later, rfl, gives, after⟩ := ih before
        exact ⟨earlier, request, later ++ [input], by simp, gives, after⟩
      · exact ⟨inputs, request, [], rfl, gives, after⟩

end Sequential

/-! ### A dependency that is added to a `DONE` ticket -/

section Example

open Sample

/-- A `DONE` ticket is made to depend on an open one. -/
def blockedWhenDone : List Input :=
  setup ++ [ticket .done, ticket .todo, .request (.addDependency 1 2 1)]

/-- Ticket 1 is `DONE`, and 2, which blocks it, is to do. -/
theorem resolved_over_blocker : ¬ ∀ inputs, ResolvedBlockers (serveAll inputs Db.empty) := by
  intro resolved
  have violated : ∃ row ∈ TicketsRepository.findById 1 (serveAll blockedWhenDone Db.empty),
      row.status = .done ∧ ¬ (serveAll blockedWhenDone Db.empty).Unblocked 1 := by
    decide +kernel
  obtain ⟨row, found, done, blocked⟩ := violated
  exact blocked (resolved blockedWhenDone 1 row found done)

/-- The open blocker comes from the dependency. -/
theorem resolved_blockers_blockedWhenDone :
    ∃ earlier request later, blockedWhenDone = earlier ++ .request request :: later ∧
      GivesOver request (serveAll earlier Db.empty) 1 2 ∧
      OverBlocker (serve request (serveAll earlier Db.empty)).2 1 2 :=
  resolved_blockers blockedWhenDone
    ⟨by decide +kernel, by decide +kernel, by decide +kernel⟩

end Example

end IssueFlow
