import IssueFlow.Database.Blockers
import IssueFlow.System.Outlines

/-!
# The blocker check under concurrency

A PATCH to `DONE` counts the unresolved blockers of the ticket and writes in a
later statement. Neither a new dependency nor a restored blocker touches the
version the UPDATE is guarded by. When nothing has given the ticket an
unresolved blocker since the count, no ticket moves to `DONE` over one.

## Main definitions

* `ResolvesUnblocked` — a ticket that moves to `DONE` has no unresolved blocker
* `CountKept` — nothing has given the ticket a blocker since they were counted

## Main results

* `resolves_unblocked` — schedules that keep the counts
* `resolves_over_blocker` — a schedule in which a dependency is added in between
-/

namespace IssueFlow

open Store Semantics JavaScript

/-- If the event moves the ticket to `DONE`, it finds it without unresolved
blockers. -/
def ResolvesUnblocked [Postgres] (id : ℕ) (event : Event Statement Db) : Prop :=
  ∀ row ∈ event.state.tickets.get? id,
    ∀ row' ∈ (exec event.op event.state).2.tickets.get? id,
      row.status ≠ .done → row'.status = .done → event.state.Unblocked id

instance [Postgres] (id : ℕ) (event : Event Statement Db) :
    Decidable (ResolvesUnblocked id event) := by
  unfold ResolvesUnblocked
  infer_instance

/-- Along statements that do not give the ticket an unresolved blocker, it stays
without one. -/
def KeptUnblocked (id : ℕ) (before after : Db) : Prop :=
  before.DependenciesStored ∧ before.Unblocked id → after.DependenciesStored ∧ after.Unblocked id

theorem KeptUnblocked.refl (id : ℕ) (db : Db) : KeptUnblocked id db db := fun holds => holds

theorem KeptUnblocked.trans {id : ℕ} {first second third : Db}
    (earlier : KeptUnblocked id first second) (later : KeptUnblocked id second third) :
    KeptUnblocked id first third :=
  fun holds => later (earlier holds)

theorem keptUnblocked_advance (id elapsed : ℕ) (db : Db) :
    KeptUnblocked id db (advance elapsed db) :=
  fun holds => holds

section Interleaved

/-- The count of the unresolved blockers of a ticket. -/
def isCountOf (id : ℕ) : Statement → Bool
  | .select (.countUnresolvedBlockers read) => read = id
  | _ => false

variable [Postgres] {ι : Type} [DecidableEq ι]

/-- When the UPDATE of a PATCH to `DONE` takes effect, nothing has given its
ticket an unresolved blocker since the blockers were counted. -/
def CountKept (c : System ι) (thread : ι) : Statement → Prop
  | .command (.updateWithVersionCheck id version input resetOverdueFlag) =>
      writesTicket id
          ⟨.command (.updateWithVersionCheck id version input resetOverdueFlag), c.state⟩ →
        input.status = .value .done →
          c.KeptSince thread (fun op => isCountOf id op) fun event =>
            ∀ blockerId ∈ event.op.blocker?, ¬ GivesBlocker id blockerId event
  | _ => True

instance (c : System ι) (thread : ι) (statement : Statement) :
    Decidable (CountKept c thread statement) := by
  unfold CountKept
  split <;> infer_instance

variable [Bcrypt] [Unicode] {db : Db} {requests : ι → Request} {fuel : ι → ℕ}

theorem dependenciesStored_run (stored : db.DependenciesStored) (turns : List (Turn ι ℕ)) :
    (System.run db requests fuel turns).state.DependenciesStored := by
  refine Config.play_state_invariant Db.DependenciesStored turns stored ?_ ?_
  · exact fun statement db holds => dependenciesStored_exec statement holds
  · exact fun elapsed db holds => holds

/-- **No ticket moves to `DONE` over an unresolved blocker**, over every schedule
in which nothing gives the ticket one between the count and the UPDATE. -/
theorem resolves_unblocked (db : Db) (stored : db.DependenciesStored) (requests : ι → Request)
    (fuel : ι → ℕ) (turns : List (Turn ι ℕ))
    (kept : System.Meets db requests fuel CountKept turns) :
    ∀ entry ∈ (System.run db requests fuel turns).trace, ∀ id, ResolvesUnblocked id entry.2 := by
  rintro ⟨thread, ⟨statement, state⟩⟩ member id row found row' found' unresolved resolved
  obtain ⟨row'', found'', transition⟩ := ticket_transition statement found
  obtain rfl := Option.some.inj (found''.symm.trans found')
  obtain rfl : row.id = id := Table.key_of_get? found
  obtain ⟨version, input, resetOverdueFlag, rfl, writes, toDone⟩ :=
    patch_of_resolved transition unresolved resolved
  obtain ⟨first, later, next, -, whole, rfl, running, guard⟩ := kept.sent member
  obtain ⟨-, -, -, -, -, blockers⟩ :=
    ((System.outlined db requests fuel first).of_running running).checked
  obtain ⟨past, counted, none⟩ := blockers toDone
  -- The blockers were stored when they were counted, too.
  have counted_stored : past.DependenciesStored := by
    have member' := Config.mem_history.mp counted
    obtain ⟨earlier, -, -, -, -, rfl, -, -⟩ := kept.sent (by
      rw [whole]
      exact List.mem_append_right _ (List.mem_cons_of_mem _ member'))
    exact dependenciesStored_run stored earlier
  have start : past.Unblocked row.id :=
    DependenciesRepository.countUnresolvedBlockers_eq_zero.mp none
  obtain ⟨newer, older, split, quiet⟩ := (guard writes toDone).split counted (by simp [isCountOf])
  -- What holds after the count is kept by every statement since.
  have since : KeptUnblocked row.id past (System.run db requests fuel first).state := by
    refine Config.trace_since (KeptUnblocked.refl row.id) KeptUnblocked.trans
      (keptUnblocked_advance row.id) first newer _ older split ?_
    rintro ⟨sender, event⟩ recent ⟨holds, unblocked⟩
    exact ⟨dependenciesStored_exec _ holds, unblocked_exec holds unblocked fun blockerId gives =>
      quiet _ recent blockerId gives.mem_blocker? gives⟩
  exact (since ⟨counted_stored, start⟩).2

end Interleaved

/-! ### A dependency that is added between the count and the UPDATE -/

section Schedules

open Sample

/-- A PATCH of 1 to `DONE`, and a request that makes 2 block 1. -/
def moveAndBlock : Bool → Request
  | true => move 1 1 .done
  | false => .addDependency 1 2 1

/-- The two requests, served from `twoTickets`. -/
def serveMoveAndBlock (turns : List Bool) : System Bool :=
  System.run twoTickets moveAndBlock (fun _ => walkFuel twoTickets) (turns.map .call)

theorem twoTickets_dependenciesStored : twoTickets.DependenciesStored := by
  have empty : twoTickets.ticketDependencies = [] := by decide +kernel
  intro ticketId blockerId edge
  simp [Db.blockedBy, empty] at edge

/-- The dependency is inserted between the count and the UPDATE: ticket 1 moves
to `DONE` while 2, which blocks it, is to do. -/
theorem resolves_over_blocker :
    twoTickets.DependenciesStored ∧
      ¬ ∀ entry ∈ (serveMoveAndBlock [true, true, false, false, false, false, true]).trace,
        ∀ id, ResolvesUnblocked id entry.2 := by
  have violated : ¬ ∀ entry ∈
      (serveMoveAndBlock [true, true, false, false, false, false, true]).trace,
      ResolvesUnblocked 1 entry.2 := by decide +kernel
  refine ⟨twoTickets_dependenciesStored, fun clean => violated fun entry member => ?_⟩
  exact clean entry member 1

/-- A PATCH that is served before the dependency is added. -/
theorem resolves_unblocked_before_add :
    twoTickets.DependenciesStored ∧
      ∀ entry ∈ (serveMoveAndBlock [true, true, true, true, false, false, false, false]).trace,
        ∀ id, ResolvesUnblocked id entry.2 :=
  ⟨twoTickets_dependenciesStored,
    resolves_unblocked twoTickets twoTickets_dependenciesStored moveAndBlock _ _
      (by decide +kernel)⟩

end Schedules

end IssueFlow
