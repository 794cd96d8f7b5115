import IssueFlow.System.Evidence
import IssueFlow.System.Versions

/-!
# The version of a ticket and its content

Every UPDATE of the repository that changes the content of a ticket raises its
version. The foreign key does not: removing a user clears the assignee of the
user's tickets and leaves their versions. When no assignee is removed, a
version identifies the content, at any two moments of a run.

## Main definitions

* `TicketContent`, `TicketRow.content` — what the version is about
* `AssigneesKept` — no assignee of a ticket is removed

## Main results

* `version_identifies_content` — schedules that keep assignees
* `deleted_assignee_keeps_version` — a schedule that removes one
-/

namespace IssueFlow

open Store Semantics JavaScript

/-- The fields a version stands for. -/
structure TicketContent where
  title : String
  description : Option String
  status : TicketStatus
  priority : TicketPriority
  assigneeId : Option ℕ
  dueDate : Option Timestamp
  isOverdue : Bool
  deriving DecidableEq, Repr

def TicketRow.content (row : TicketRow) : TicketContent where
  title := row.title
  description := row.description
  status := row.status
  priority := row.priority
  assigneeId := row.assigneeId
  dueDate := row.dueDate
  isOverdue := row.isOverdue

/-- A deletion of a user removes no assignee of a ticket. -/
def AssigneesKept {ι : Type} (c : System ι) (_ : ι) : Statement → Prop
  | .command (.deleteUser user) =>
      (UsersRepository.delete user c.state).1 = .ok true →
        ∀ row ∈ c.state.tickets.rows, row.assigneeId ≠ some user
  | _ => True

instance {ι : Type} (c : System ι) (thread : ι) (statement : Statement) :
    Decidable (AssigneesKept c thread statement) := by
  unfold AssigneesKept
  split <;> infer_instance

section Interleaved

variable [Postgres]

/-- Only a removed assignee changes the content and leaves the version. -/
theorem TicketTransition.content_eq {db : Db} {statement : Statement} {row row' : TicketRow}
    (transition : TicketTransition db statement row row') (version : row'.version = row.version)
    (kept : ∀ user, statement = .command (.deleteUser user) →
      (UsersRepository.delete user db).1 = .ok true → row.assigneeId ≠ some user) :
    row'.content = row.content := by
  obtain ⟨assigneeId, deletedAt, updatedAt, rfl, same | ⟨user, sent, removed, assigned⟩⟩ :=
    transition.of_version_eq version
  · rw [same]
    rfl
  · exact absurd assigned (kept user sent removed)

variable [Bcrypt] [Unicode] {ι : Type} [DecidableEq ι] {db : Db} {requests : ι → Request}
  {fuel : ι → ℕ}

/-- From one moment of a run to a later one. -/
theorem content_fixedByVersion {first second : List (Turn ι ℕ)}
    (kept : System.Meets db requests fuel AssigneesKept (first ++ second)) (id : ℕ) :
    FixedByVersion TicketRow.content id (System.run db requests fuel first).state
      (System.run db requests fuel (first ++ second)).state := by
  refine kept.state_rel FixedByVersion.refl FixedByVersion.trans fixedByVersion_advance ?_
  intro turns thread statement next c running guard
  apply fixedByVersion_exec
  intro row row' stored transition version
  refine transition.content_eq version fun user removes removed => ?_
  subst removes
  exact guard removed row (Table.mem_of_get? stored)

/-- Between any two moments of a run. -/
theorem content_eq_of_version {turns first second : List (Turn ι ℕ)}
    (kept : System.Meets db requests fuel AssigneesKept turns) (isPrefix : first <+: turns)
    (isPrefix' : second <+: turns) {id : ℕ} {row row' : TicketRow}
    (stored : (System.run db requests fuel first).state.tickets.get? id = some row)
    (stored' : (System.run db requests fuel second).state.tickets.get? id = some row')
    (version : row'.version = row.version) : row'.content = row.content := by
  rcases List.prefix_or_prefix_of_prefix isPrefix isPrefix' with ⟨rest, rfl⟩ | ⟨rest, rfl⟩
  · obtain ⟨later, rfl⟩ := isPrefix'
    exact (content_fixedByVersion kept.of_append.1 id).content_eq stored stored' version
  · obtain ⟨later, rfl⟩ := isPrefix
    exact ((content_fixedByVersion kept.of_append.1 id).content_eq stored' stored
      version.symm).symm

/-- **A version identifies the content** over every schedule that removes no
assignee: at any two moments with the same version of a ticket its content is
the same, and a PATCH that takes effect overwrites the content that any moment
with the version it carries has shown. -/
theorem version_identifies_content (db : Db) (requests : ι → Request) (fuel : ι → ℕ)
    (turns : List (Turn ι ℕ)) (kept : System.Meets db requests fuel AssigneesKept turns) :
    (∀ first second id row row', first <+: turns → second <+: turns →
      (System.run db requests fuel first).state.tickets.get? id = some row →
      (System.run db requests fuel second).state.tickets.get? id = some row' →
      row'.version = row.version → row'.content = row.content) ∧
    ∀ entry ∈ (System.run db requests fuel turns).trace, ∀ id version,
      IsTicketPatch id (some version) entry.2 → ∀ first row, first <+: turns →
        (System.run db requests fuel first).state.tickets.get? id = some row →
        row.version = version →
        ∃ overwritten, entry.2.state.tickets.get? id = some overwritten ∧
          overwritten.content = row.content := by
  constructor
  · intro first second id row row' isPrefix isPrefix' stored stored' version
    exact content_eq_of_version kept isPrefix isPrefix' stored stored' version
  · rintro ⟨thread, ⟨statement, state⟩⟩ member id version ⟨writes, input, resetOverdueFlag, sent⟩
      first row isPrefix stored expected
    obtain rfl : statement = _ := sent
    obtain ⟨before, -, -, isPrefix', -, rfl, -, -⟩ := kept.sent member
    rcases updateWithVersionCheck_cases id (some version) input resetOverdueFlag
      (System.run db requests fuel before).state with
      ⟨silent, -⟩ | ⟨overwritten, due, stored', -, current, -, -⟩
    · simp [writesTicket, silent] at writes
    · -- The UPDATE has compared the versions in the state it was executed in.
      have same : overwritten.version = row.version :=
        (Option.some.inj current).symm.trans expected.symm
      exact ⟨overwritten, stored',
        content_eq_of_version kept isPrefix isPrefix' stored stored' same⟩

end Interleaved

/-! ### An assignee that is removed -/

section Schedules

open Sample

/-- A developer. -/
def developer (username email : String) : Input :=
  .request (.createUser ⟨username, email, "Dev", .developer, .undefined⟩ none "")

/-- A ticket that is assigned to user 2; user 3 has none. -/
def assignedTicket : Db :=
  serveAll (setup ++ [developer "dev" "dev@example.com", developer "dev2" "dev2@example.com",
    .request (.createTicket
      ⟨"Ticket", .undefined, .undefined, .undefined, .bug, 1, .value 2, .undefined⟩ 1)]) Db.empty

/-- A deletion of a user, served from `assignedTicket`. -/
def serveDeleteUser (user : ℕ) (turns : List (Turn Unit ℕ)) : System Unit :=
  System.run assignedTicket (fun _ => .deleteUser user 1) (fun _ => 0) turns

/-- Deleting user 2 changes the assignee of the ticket, whose version stays 1. -/
theorem deleted_assignee_keeps_version :
    ¬ ∀ (first second : List (Turn Unit ℕ)) (id : ℕ) (row row' : TicketRow),
      (serveDeleteUser 2 first).state.tickets.get? id = some row →
      (serveDeleteUser 2 second).state.tickets.get? id = some row' →
      row'.version = row.version → row'.content = row.content := by
  have differs : ∃ row ∈ (serveDeleteUser 2 []).state.tickets.get? 1,
      ∃ row' ∈ (serveDeleteUser 2 [.call (), .call ()]).state.tickets.get? 1,
        row'.version = row.version ∧ row'.content ≠ row.content := by decide +kernel
  obtain ⟨row, stored, row', stored', version, different⟩ := differs
  intro claim
  exact different (claim _ _ 1 row row' stored stored' version)

/-- Deleting user 3 changes no ticket. -/
theorem version_identifies_content_unassigned :
    (∀ first second id row row', first <+: [.call (), .call (), .call ()] →
      second <+: [.call (), .call (), .call ()] →
      (serveDeleteUser 3 first).state.tickets.get? id = some row →
      (serveDeleteUser 3 second).state.tickets.get? id = some row' →
      row'.version = row.version → row'.content = row.content) ∧
    ∀ entry ∈ (serveDeleteUser 3 [.call (), .call (), .call ()]).trace, ∀ id version,
      IsTicketPatch id (some version) entry.2 → ∀ first row,
        first <+: [.call (), .call (), .call ()] →
        (serveDeleteUser 3 first).state.tickets.get? id = some row → row.version = version →
        ∃ overwritten, entry.2.state.tickets.get? id = some overwritten ∧
          overwritten.content = row.content :=
  version_identifies_content assignedTicket _ _ _ (by decide +kernel)

end Schedules

end IssueFlow
