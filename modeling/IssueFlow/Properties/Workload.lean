import IssueFlow.Properties.AutoAssignment
import IssueFlow.Store.Select

/-!
# The workload list and the choice of an assignee

The workload of a project is one SELECT with a left join, whose conditions on
tickets stand in the ON clause. Evaluated clause by clause it lists every
developer once, with the number of tickets that are open, by that number and
then by registration. A ticket that is created without an assignee goes to the
first of that list.

## Main definitions

* `TicketsRepository.workloadQuery` — the SELECT, clause by clause
* `ListsWorkload` — what a workload list is
* `CreatedFor` — whom a new ticket is for, and what is logged

## Main results

* `TicketsRepository.workloadQuery_eq` — the SELECT in closed form
* `workload_and_assignment` — the list and the choice are right
-/

namespace IssueFlow

open Store Semantics JavaScript Balance

namespace TicketsRepository

/-! ### The SELECT -/

/-- The columns of the GROUP BY. -/
structure WorkloadKey where
  id : ℕ
  username : String
  createdAt : Timestamp
  deriving DecidableEq, Repr

def workloadKey (user : UserRow) : WorkloadKey := ⟨user.id, user.username, user.createdAt⟩

/-- The ON clause: a ticket that a user has open in the project. -/
def isOpenFor (projectId : ℕ) (user : UserRow) (ticket : TicketRow) : Bool :=
  ticket.assigneeId = some user.id && ticket.projectId = projectId && ticket.status ≠ .done &&
    ticket.isLive

/-- The ORDER BY clause: by count, then by registration. -/
def countedBefore (first second : WorkloadKey × ℕ) : Prop :=
  first.2 < second.2 ∨ first.2 = second.2 ∧ first.1.createdAt ≤ second.1.createdAt

instance : DecidableRel countedBefore := fun _ _ => inferInstanceAs (Decidable (_ ∨ _))

/-- The SELECT of `workloadByProject`, clause by clause. -/
def workloadQuery (projectId : ℕ) (db : Db) : List WorkloadRow :=
  let pairs := leftJoin (isOpenFor projectId) db.users.rows db.tickets.rows
  let kept := pairs.filter fun pair => pair.1.role = .developer
  let groups := groupBy (fun pair => workloadKey pair.1) kept
  let counted := groups.map fun group =>
    (group.1, countColumn (fun pair => pair.2.map TicketRow.id) group.2)
  (orderBy countedBefore counted).map fun entry => ⟨entry.1.id, entry.1.username, entry.2⟩

/-- Users are told apart by their ids, so each has a group of its own. -/
theorem nodup_workloadKey (p : UserRow → Bool) (db : Db) :
    ((db.users.rows.filter p).map workloadKey).Nodup := by
  have ids : ((db.users.rows.filter p).map UserRow.id).Nodup :=
    db.users.nodup_keys.sublist (List.filter_sublist.map _)
  refine List.Nodup.of_map WorkloadKey.id ?_
  rw [List.map_map]
  exact ids

/-- **The SELECT in closed form**: it counts, developer by developer. -/
theorem workloadQuery_eq (projectId : ℕ) (db : Db) :
    workloadQuery projectId db = workloadByProject projectId db := by
  have kept : (leftJoin (isOpenFor projectId) db.users.rows db.tickets.rows).filter
      (fun pair => pair.1.role = .developer) = leftJoin (isOpenFor projectId)
        (db.users.rows.filter fun user => user.role = .developer) db.tickets.rows :=
    filter_leftJoin fun user : UserRow => user.role = .developer
  unfold workloadQuery workloadByProject orderBy
  simp only
  rw [kept, groupBy_leftJoin (nodup_workloadKey _ db), List.map_map]
  generalize (db.users.rows.filter fun user => user.role = .developer) = developers
  -- Forgetting the user of an entry and keeping its key changes no comparison.
  let forget (entry : UserRow × ℕ) : WorkloadKey × ℕ := (workloadKey entry.1, entry.2)
  have counted : developers.map ((fun group : WorkloadKey × List (UserRow × Option TicketRow) =>
        (group.1, countColumn (fun pair => pair.2.map TicketRow.id) group.2)) ∘ fun user =>
        (workloadKey user, joined (isOpenFor projectId) db.tickets.rows user)) =
      (developers.map fun user => (user, (openTickets projectId db user).length)).map forget := by
    rw [List.map_map]
    refine List.map_congr_left fun user _ => ?_
    simp only [Function.comp_apply, countColumn_joined]
    rfl
  rw [counted, ← List.map_insertionSort (fun first second : UserRow × ℕ =>
    first.2 < second.2 ∨ first.2 = second.2 ∧ first.1.createdAt ≤ second.1.createdAt)
    countedBefore forget _ fun _ _ _ _ => Iff.rfl, List.map_map]
  rfl

end TicketsRepository

/-! ### The list -/

section Workload

open TicketsRepository

/-- The workload of a project: every developer once and nobody else, with the
number of open tickets, by that number and then by registration. -/
def ListsWorkload (projectId : ℕ) (db : Db) (list : List WorkloadRow) : Prop :=
  ∃ ranked : List UserRow, ranked.Perm (db.users.rows.filter fun user => user.role = .developer) ∧
    ranked.Pairwise (fun first second =>
      toLex ((openTickets projectId db first).length, first.createdAt) ≤
        toLex ((openTickets projectId db second).length, second.createdAt)) ∧
    list = ranked.map fun user =>
      ⟨user.id, user.username, (openTickets projectId db user).length⟩

theorem listsWorkload (projectId : ℕ) (db : Db) :
    ListsWorkload projectId db (workloadByProject projectId db) := by
  let counted := (db.users.rows.filter fun user => user.role = .developer).map
    fun user => (user, openCount projectId db user)
  let sorted := counted.insertionSort workloadOrder
  have perm : sorted.Perm counted := List.perm_insertionSort workloadOrder counted
  have pairwise : sorted.Pairwise workloadOrder := List.pairwise_insertionSort workloadOrder counted
  -- Every entry carries the count of its own user.
  have carries : ∀ entry ∈ sorted, entry.2 = openCount projectId db entry.1 := by
    intro entry member
    obtain ⟨user, -, rfl⟩ := List.mem_map.mp (perm.mem_iff.mp member)
    rfl
  refine ⟨sorted.map Prod.fst, ?_, ?_, ?_⟩
  · have users : counted.map Prod.fst =
        db.users.rows.filter fun user => user.role = .developer := by
      rw [List.map_map]
      exact List.map_id _
    exact users ▸ perm.map Prod.fst
  · rw [List.pairwise_map]
    refine pairwise.imp_of_mem fun {first second} firstMember secondMember before => ?_
    have ordered := (workloadOrder_iff first second).mp before
    rw [carries first firstMember, carries second secondMember] at ordered
    exact ordered
  · rw [List.map_map]
    have list : workloadByProject projectId db =
        sorted.map fun entry => ⟨entry.1.id, entry.1.username, entry.2⟩ := rfl
    rw [list]
    refine List.map_congr_left fun entry member => ?_
    rw [carries entry member]
    rfl

end Workload

/-! ### The choice -/

section Creation

open TicketsRepository

variable [Postgres]

/-- The entry about an assignment the system made. -/
def autoAssignEntry (ticketId assignee : ℕ) : AuditInsert where
  action := .autoAssign
  entityType := .ticket
  entityId := ticketId
  performedBy := none
  actor := .system
  metadata := [("assigneeId", .value (.number assignee)),
    ("reason", .value (.text "least-loaded DEVELOPER in project"))]

/-- Whom a creation without an assignee is for: nobody without developers, and
otherwise the developer of least load who registered first. -/
def IsChoice (projectId : ℕ) (db : Db) : Option ℕ → Prop
  | none => developers db = []
  | some assignee => ∃ user,
      Preferred (developers db) (·.createdAt) (openCount projectId db) user ∧ assignee = user.id

omit [Postgres] in
theorem isChoice_head? (projectId : ℕ) (db : Db) :
    IsChoice projectId db ((workloadByProject projectId db).head?.map (·.userId)) := by
  obtain ⟨none, some⟩ := head?_workloadByProject projectId db
  by_cases empty : developers db = []
  · rw [none empty]
    exact empty
  · obtain ⟨user, preferred, first⟩ := some empty
    rw [first]
    exact ⟨user, preferred, rfl⟩

/-- Whom a new ticket is for, and the entries about it: a supplied assignee is
used unchanged, and an entry of the system is logged exactly when the system has
chosen somebody. -/
def CreatedFor (dto : CreateTicketDto) (performedBy : ℕ) (db : Db) (row : TicketRow) (after : Db) :
    Prop :=
  after.tickets.get? row.id = some row ∧ ∃ entry : AuditInsert,
    entry.key = .byUser .create .ticket row.id performedBy ∧
    match dto.assigneeId with
    | .value assignee => row.assigneeId = some assignee ∧ Appended [entry] db after
    | .null => False
    | .undefined => IsChoice dto.projectId db row.assigneeId ∧
        Appended (entry :: (row.assigneeId.map (autoAssignEntry row.id)).toList) db after

namespace TicketsService

/-- The entries about an assignment the system made. -/
theorem run_logAutoAssign {α : Type} (ticketId : ℕ) (chosen : Option ℕ)
    (next : Unit → Service α) (db : Db) :
    (logAutoAssign ticketId chosen >>= next).run exec db =
      (next ()).run exec ((chosen.map (autoAssignEntry ticketId)).toList.foldl Db.log db) := by
  cases chosen with
  | none => rfl
  | some assignee => exact AuditService.run_log _ next db

/-- A supplied assignee that does not exist ends the creation. -/
theorem run_assertAssigneeExists {α : Type} (assigneeId : Field ℕ) (next : Unit → Service α)
    (db : Db) :
    (assertAssigneeExists assigneeId >>= next).run exec db =
      if assigneeId.isDefined && (UsersRepository.findById assigneeId.toOption db).isNone then
        (.error (.http .notFound s!"User {showNumber assigneeId.toOption} not found"), db)
      else (next ()).run exec db := by
  unfold assertAssigneeExists
  cases assigneeId.isDefined with
  | false => rfl
  | true =>
      rw [if_pos rfl, UsersService.findById, UsersService.getOrThrow]
      simp only [Program.bind_assoc]
      rw [run_select, Query.eval]
      cases UsersRepository.findById assigneeId.toOption db <;> rfl

/-- The workload query is asked when no assignee is supplied. -/
theorem run_autoAssign {α : Type} (dto : CreateTicketDto) (next : Option ℕ → Service α) (db : Db) :
    (autoAssign dto >>= next).run exec db =
      (next (if dto.assigneeId.isDefined then none
        else chosenAssignee dto.projectId db)).run exec db := by
  unfold autoAssign
  cases dto.assigneeId.isDefined with
  | false =>
      rw [if_neg Bool.false_ne_true, if_neg Bool.false_ne_true, Program.bind_assoc, run_select]
      rfl
  | true => rfl

omit [Postgres] in
theorem effectiveAssignee_value {dto : CreateTicketDto} {id : ℕ} (chosen : Option ℕ)
    (given : dto.assigneeId = .value id) : effectiveAssignee dto chosen = .value id := by
  simp only [effectiveAssignee, given]

/-- The INSERT of a creation that succeeds, and the entries after it. -/
theorem create_returned {dto : CreateTicketDto} {performedBy : ℕ} {db after : Db}
    {response : TicketResponse}
    (returned : (create dto performedBy).run exec db = (.ok response, after)) :
    let chosen := if dto.assigneeId.isDefined then none else chosenAssignee dto.projectId db
    dto.assigneeId ≠ .null ∧ ∃ row stored, ∃ entry : AuditInsert,
      TicketsRepository.create { dto with assigneeId := effectiveAssignee dto chosen } db =
          (.ok row, stored) ∧
        response = toTicketResponse row ∧
        entry.key = .byUser .create .ticket row.id performedBy ∧
        after = (entry :: (chosen.map (autoAssignEntry row.id)).toList).foldl Db.log stored := by
  intro chosen
  unfold create at returned
  rw [ProjectsService.run_assertExists] at returned
  cases project : ProjectsRepository.findById dto.projectId db with
  | none =>
      rw [project] at returned
      cases returned
  | some found =>
      simp only [project] at returned
      rw [run_assertAssigneeExists] at returned
      split at returned
      · cases returned
      · rename_i stored
        constructor
        · -- No user has the id `null`, so the creation has ended before.
          intro null
          rw [null] at stored
          exact stored rfl
        · rw [run_autoAssign, run_execute] at returned
          simp only [Command.exec] at returned
          generalize executed : TicketsRepository.create
            { dto with assigneeId := effectiveAssignee dto chosen } db = answer at returned
          obtain ⟨answer, stored⟩ := answer
          cases answer with
          | error error => cases returned
          | ok row =>
              simp only [AuditService.run_log] at returned
              rw [run_logAutoAssign] at returned
              cases returned
              exact ⟨row, stored, _, rfl, rfl, rfl, rfl⟩

end TicketsService

variable [Bcrypt] [Unicode]

/-- **Workload and auto-assignment.** The SELECT lists every developer once, with
the number of open tickets in the project, by that number and then by
registration. A creation without an assignee is for the first developer of this
order, and for nobody if there is none, and is logged as an assignment of the
system exactly in the first case; a supplied assignee is used as it is. -/
theorem workload_and_assignment (projectId : ℕ) (db : Db) :
    workloadQuery projectId db = workloadByProject projectId db ∧
      ListsWorkload projectId db (workloadByProject projectId db) ∧
      ∀ (dto : CreateTicketDto) (performedBy : ℕ) (response : Response) (after : Db),
        serve (.createTicket dto performedBy) db = (.ok response, after) →
        ∃ row, response = .ticket (toTicketResponse row) ∧
          CreatedFor dto performedBy db row after := by
  refine ⟨workloadQuery_eq projectId db, listsWorkload projectId db, ?_⟩
  intro dto performedBy response after served
  have ran : serve (.createTicket dto performedBy) db =
      (.ticket <$> TicketsService.create dto performedBy).run exec db := rfl
  rw [ran] at served
  obtain ⟨ticket, executed, rfl⟩ := Program.run_map_eq_ok exec served
  obtain ⟨supplied, row, stored, entry, created, rfl, key, rfl⟩ :=
    TicketsService.create_returned executed
  obtain ⟨due, -, rowEq, storedEq⟩ := create_ok created
  obtain ⟨auditLogs, logged⟩ := Db.foldl_log
    (entry :: ((if dto.assigneeId.isDefined then none
      else chosenAssignee dto.projectId db).map (autoAssignEntry row.id)).toList) stored
  have same : Appended [] db stored := .of_rows_eq (by rw [storedEq])
  refine ⟨row, rfl, ?_, entry, key, ?_⟩
  · rw [logged, storedEq, rowEq]
    exact (Table.get?_insert _ fun _ => rfl).trans (if_pos rfl)
  · -- The assignee of the new row is the supplied or the chosen one.
    have assignee : row.assigneeId = (TicketsService.effectiveAssignee dto
        (if dto.assigneeId.isDefined then none
          else chosenAssignee dto.projectId db)).toOption := by
      rw [rowEq]
      rfl
    cases given : dto.assigneeId with
    | null => exact absurd given supplied
    | value id =>
        rw [TicketsService.effectiveAssignee_value _ given] at assignee
        exact ⟨assignee, same.trans (.foldl_log _ stored)⟩
    | undefined =>
        rw [TicketsService.effectiveAssignee_undefined _ given, given] at assignee
        refine ⟨?_, ?_⟩
        · rw [assignee]
          exact isChoice_head? dto.projectId db
        · rw [assignee]
          exact same.trans (.foldl_log _ stored)

end Creation

/-! ### Two developers -/

section Sample

open TicketsRepository Sample

/-- The second ticket without an assignee goes to the second developer. -/
theorem workload_and_assignment_twoDevelopers :
    let db := serveAll [ticket .todo] twoDevelopers
    let dto : CreateTicketDto :=
      ⟨"Ticket", .undefined, .undefined, .undefined, .bug, 1, .undefined, .undefined⟩
    let served := serve (.createTicket dto 1) db
    workloadQuery 1 db = workloadByProject 1 db ∧
      ListsWorkload 1 db (workloadByProject 1 db) ∧
      ∃ row, served.1.toOption = some (.ticket (toTicketResponse row)) ∧ row.assigneeId = some 3 ∧
        CreatedFor dto 1 db row served.2 := by
  intro db dto served
  obtain ⟨query, list, created⟩ := workload_and_assignment 1 db
  refine ⟨query, list, ?_⟩
  have answered : ((Input.request (.createTicket dto 1)).answer db).bind
      TicketResponse.assigneeId = some 3 := by
    decide +kernel
  have evaluated : serve (.createTicket dto 1) db = served := rfl
  rw [Input.answer, evaluated] at answered
  obtain ⟨result, after⟩ := served
  cases result with
  | error exception => cases answered
  | ok response =>
      obtain ⟨row, rfl, forRow⟩ := created dto 1 response after evaluated
      exact ⟨row, rfl, answered, forRow⟩

end Sample

end IssueFlow
