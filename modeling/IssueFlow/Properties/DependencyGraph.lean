import IssueFlow.Graph.Acyclic
import IssueFlow.System.Outlines

/-!
# The dependency graph under concurrency

The cycle check and the INSERT are separate statements. Two adds that check
before either has inserted close a cycle. When the walk of every add is still
current at its INSERT, the graph stays acyclic over any schedule.

## Main definitions

* `IsCurrent` — what a walk has read is still all there is to read
* `InsertsCurrent` — every INSERT is sent by a walk that is current

## Main results

* `blockedBy_acyclic` — schedules of current INSERTs keep the graph acyclic
* `concurrent_adds_close_cycle` — a schedule that closes a cycle
-/

namespace IssueFlow

open Store Semantics JavaScript IssueFlow.Graph

/-- Every stored dependency of a ticket whose blockers the walk has read leads
to a ticket the walk has met: no other request has added one behind it. -/
def IsCurrent (blockerId : ℕ) (events : History) (db : Db) : Prop :=
  ∀ row ∈ db.ticketDependencies, HasRead events row.ticketId → HasMet blockerId events row.blockerId

/-- The INSERT of an add is sent by a walk that is current. -/
def InsertsCurrent {ι : Type} [DecidableEq ι] (c : System ι) (thread : ι) : Statement → Prop
  | .command (.addDependency _ blockerId) => IsCurrent blockerId (c.history thread) c.state
  | _ => True

instance {ι : Type} [DecidableEq ι] (c : System ι) (thread : ι) (statement : Statement) :
    Decidable (InsertsCurrent c thread statement) := by
  unfold InsertsCurrent IsCurrent
  split <;> infer_instance

section Walk

variable [Postgres] {ticketId blockerId : ℕ} {events : History} {db : Db}

omit [Postgres] in
/-- A completed walk that is current has found that its start does not lead to
the ticket that would be blocked. -/
theorem ClearOf.separated (walked : ClearOf ticketId blockerId events)
    (current : IsCurrent blockerId events db) :
    ¬ Relation.ReflTransGen db.blockedBy blockerId ticketId := by
  have closed : ∀ id ∈ {id | HasMet blockerId events id}, ∀ next, db.blockedBy id next →
      next ∈ {id | HasMet blockerId events id} := by
    rintro _ met _ ⟨row, member, rfl, rfl⟩
    exact current row member (walked.read _ met)
  have outside : ticketId ∉ {id | HasMet blockerId events id} :=
    fun met => walked.clear (walked.read ticketId met)
  exact not_reaches_of_closed closed (.inl rfl) outside

/-- A statement keeps the graph acyclic, if an INSERT does not close a cycle. -/
theorem acyclic_exec {statement : Statement} (acyclic : Acyclic db.blockedBy)
    (separated : ∀ ticketId blockerId, statement = .command (.addDependency ticketId blockerId) →
      ¬ Relation.ReflTransGen db.blockedBy blockerId ticketId) :
    Acyclic (exec statement db).2.blockedBy := by
  by_cases inserts : ∃ ticketId blockerId, statement = .command (.addDependency ticketId blockerId)
  · obtain ⟨ticketId, blockerId, rfl⟩ := inserts
    have inserted := acyclic.insert (separated ticketId blockerId rfl)
    refine inserted.mono fun tail head edge => ?_
    rcases blockedBy_of_exec edge with old | same
    · exact .inl old
    · injection same with same
      injection same with tailEq headEq
      exact .inr ⟨tailEq.symm, headEq.symm⟩
  · refine acyclic.mono fun tail head edge => ?_
    rcases blockedBy_of_exec edge with old | same
    · exact old
    · exact (inserts ⟨tail, head, same⟩).elim

end Walk

section Interleaved

variable [Postgres] [Bcrypt] [Unicode] {ι : Type} [DecidableEq ι]

/-- **The graph stays acyclic** over every schedule whose INSERTs are sent by
walks that are current. -/
theorem blockedBy_acyclic (db : Db) (acyclic : Acyclic db.blockedBy) (requests : ι → Request)
    (fuel : ι → ℕ) (turns : List (Turn ι ℕ))
    (current : System.Meets db requests fuel InsertsCurrent turns) :
    Acyclic (System.run db requests fuel turns).state.blockedBy := by
  refine current.outlined_invariant (fun c => Acyclic c.state.blockedBy)
    (System.outlined_start db requests fuel) acyclic ?_ ?_
  · intro c thread statement next holds running sends isCurrent
    refine acyclic_exec holds fun ticketId blockerId inserts => ?_
    subst inserts
    obtain ⟨-, -, -, walked⟩ := sends.walked
    exact walked.separated isCurrent
  · exact fun c elapsed holds => holds

end Interleaved

/-! ### Two adds that check before either inserts -/

section Schedules

open Sample

/-- One request makes 2 block 1, the other makes 1 block 2. -/
def crossedAdds : Bool → Request
  | true => .addDependency 1 2 1
  | false => .addDependency 2 1 1

/-- The two adds, served from `twoTickets`. -/
def serveCrossedAdds (turns : List Bool) : System Bool :=
  System.run twoTickets crossedAdds (fun _ => walkFuel twoTickets) (turns.map .call)

theorem twoTickets_acyclic : Acyclic twoTickets.blockedBy := by
  have empty : twoTickets.ticketDependencies = [] := by decide +kernel
  apply acyclic_of_empty
  intro ticketId blockerId edge
  simp [Db.blockedBy, empty] at edge

/-- From an acyclic graph two adds that both check before either inserts close
a cycle. -/
theorem concurrent_adds_close_cycle :
    Acyclic twoTickets.blockedBy ∧ ¬ Acyclic (serveCrossedAdds
      [true, true, true, false, false, false, true, false]).state.blockedBy := by
  refine ⟨twoTickets_acyclic, fun acyclic => acyclic 1 ?_⟩
  have first : (serveCrossedAdds
      [true, true, true, false, false, false, true, false]).state.blockedBy 1 2 := by
    decide +kernel
  have second : (serveCrossedAdds
      [true, true, true, false, false, false, true, false]).state.blockedBy 2 1 := by
    decide +kernel
  exact (Relation.TransGen.single first).tail second

/-- One add after the other: the second finds the first and inserts nothing. -/
theorem blockedBy_acyclic_one_by_one :
    Acyclic (serveCrossedAdds
      [true, true, true, true, true, false, false, false, false]).state.blockedBy :=
  blockedBy_acyclic twoTickets twoTickets_acyclic crossedAdds _ _ (by decide +kernel)

end Schedules

end IssueFlow
