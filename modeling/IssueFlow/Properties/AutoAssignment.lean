import IssueFlow.Balance.LeastLoaded
import IssueFlow.System.Effects

/-!
# Auto-assignment balances the load

A ticket that is created without an assignee goes to the developer with the
fewest open tickets in its project, the one who registered first among equals.
The workload query that chooses counts the tickets of earlier creations, so a
run of creations hands out its tickets as the workers of
`IssueFlow.Balance.LeastLoaded` are served.

## Main definitions

* `TicketsRepository.developers` — the developers in the order of registration
* `TicketsRepository.spread` — how far the numbers of open tickets are apart
* `createdAlong` — the tickets that the requests of a run are answered with

## Main results

* `TicketsRepository.head?_workloadByProject` — the query chooses the preferred developer
* `serve_create_cases` — what a creation does
* `serveAll_assigned` — a run of creations is a handout
* `auto_assignment_balances` — spread, turns and gains along every run
-/

namespace IssueFlow

open Store Semantics JavaScript Balance

namespace TicketsRepository

/-! ### The workload query -/

section Workload

/-- The developers in the order of registration. -/
def developers (db : Db) : List UserRow :=
  (db.users.rows.filter fun user => user.role = .developer).insertionSort
    fun first second => first.createdAt ≤ second.createdAt

/-- How many tickets a user has open in a project. -/
def openCount (projectId : ℕ) (db : Db) (user : UserRow) : ℕ :=
  (openTickets projectId db user).length

/-- The difference between the largest and the smallest number of open tickets. -/
def spread (projectId : ℕ) (db : Db) : ℕ :=
  let counts := (developers db).map (openCount projectId db)
  counts.max?.getD 0 - counts.min?.getD 0

variable {projectId : ℕ} {db : Db} {user : UserRow}

theorem mem_developers : user ∈ developers db ↔ user ∈ db.users.rows ∧ user.role = .developer := by
  rw [developers, List.mem_insertionSort, List.mem_filter, decide_eq_true_iff]

theorem spread_le_iff {d : ℕ} :
    spread projectId db ≤ d ↔ Within d (developers db) (openCount projectId db) := by
  unfold spread
  generalize developers db = workers
  generalize openCount projectId db = load
  cases largest : (workers.map load).max? with
  | none =>
      have none : workers = [] := List.map_eq_nil_iff.mp (List.max?_eq_none_iff.mp largest)
      simp [none, Within]
  | some top =>
      cases smallest : (workers.map load).min? with
      | none =>
          have none : workers = [] := List.map_eq_nil_iff.mp (List.min?_eq_none_iff.mp smallest)
          simp [none] at largest
      | some bottom =>
          obtain ⟨topMember, above⟩ := List.max?_eq_some_iff.mp largest
          obtain ⟨bottomMember, below⟩ := List.min?_eq_some_iff.mp smallest
          simp only [largest, smallest, Option.getD_some]
          constructor
          · intro apart v member w member'
            have := above _ (List.mem_map_of_mem member)
            have := below _ (List.mem_map_of_mem member')
            omega
          · -- The largest and the smallest load are loads of two of the workers.
            intro within
            obtain ⟨v, member, rfl⟩ := List.mem_map.mp topMember
            obtain ⟨w, member', rfl⟩ := List.mem_map.mp bottomMember
            have := within v member w member'
            omega

/-- The order of the workload list: by number, then by registration. -/
def workloadOrder (first second : UserRow × ℕ) : Prop :=
  first.2 < second.2 ∨ first.2 = second.2 ∧ first.1.createdAt ≤ second.1.createdAt

instance : DecidableRel workloadOrder := fun _ _ => inferInstanceAs (Decidable (_ ∨ _))

theorem workloadOrder_iff (first second : UserRow × ℕ) :
    workloadOrder first second ↔
      toLex (first.2, first.1.createdAt) ≤ toLex (second.2, second.1.createdAt) := by
  rw [workloadOrder, Prod.Lex.toLex_le_toLex]

instance : Std.Total workloadOrder :=
  ⟨fun first second => by
    rw [workloadOrder_iff, workloadOrder_iff]
    exact le_total _ _⟩

instance : IsTrans (UserRow × ℕ) workloadOrder :=
  ⟨fun first second third => by
    rw [workloadOrder_iff, workloadOrder_iff, workloadOrder_iff]
    exact le_trans⟩

/-- **The choice of the workload query**: nobody without developers, otherwise
the developer of least load who registered first. -/
theorem head?_workloadByProject (projectId : ℕ) (db : Db) :
    (developers db = [] → (workloadByProject projectId db).head? = none) ∧
      (developers db ≠ [] → ∃ user,
        Preferred (developers db) (·.createdAt) (openCount projectId db) user ∧
          (workloadByProject projectId db).head?.map (·.userId) = some user.id) := by
  -- Sorting keeps the entries: every developer is listed with its own count.
  have members (user : UserRow) (count : ℕ) :
      (user, count) ∈ ((db.users.rows.filter fun user => user.role = .developer).map
          fun user => (user, openCount projectId db user)).insertionSort workloadOrder ↔
        user ∈ developers db ∧ count = openCount projectId db user := by
    rw [List.mem_insertionSort, List.mem_map, developers]
    simp only [List.mem_insertionSort]
    constructor
    · rintro ⟨user, member, same⟩
      cases same
      exact ⟨member, rfl⟩
    · rintro ⟨member, rfl⟩
      exact ⟨user, member, rfl⟩
  have workload : workloadByProject projectId db =
      (((db.users.rows.filter fun user => user.role = .developer).map
        fun user => (user, openCount projectId db user)).insertionSort workloadOrder).map
          fun entry => ⟨entry.1.id, entry.1.username, entry.2⟩ := rfl
  have sorted := List.pairwise_insertionSort workloadOrder
    ((db.users.rows.filter fun user => user.role = .developer).map
      fun user => (user, openCount projectId db user))
  rw [workload]
  generalize List.insertionSort workloadOrder _ = list at members sorted
  cases list with
  | nil =>
      refine ⟨fun _ => rfl, fun some => ?_⟩
      obtain ⟨user, member⟩ := List.exists_mem_of_ne_nil _ some
      cases (members user _).mpr ⟨member, rfl⟩
  | cons first rest =>
      obtain ⟨user, count⟩ := first
      obtain ⟨member, rfl⟩ := (members user count).mp List.mem_cons_self
      refine ⟨fun none => ?_, fun _ => ⟨user, ⟨member, fun other otherMember => ?_⟩, rfl⟩⟩
      · rw [none] at member
        cases member
      · -- The first entry is not above any other.
        rcases List.mem_cons.mp ((members other _).mpr ⟨otherMember, rfl⟩) with same | later
        · cases same
          exact le_refl _
        · exact (workloadOrder_iff _ _).mp (List.rel_of_pairwise_cons sorted later)

end Workload

end TicketsRepository

/-! ### One creation -/

section Creation

open TicketsRepository

variable [Postgres]

/-- Is a request for a ticket without an assignee accepted? The project is live,
the due date is a date, and no value is NULL. -/
def CreateTicketDto.isAccepted (dto : CreateTicketDto) (db : Db) : Bool :=
  (ProjectsRepository.findById dto.projectId db).isSome && (dueInstant dto.dueDate).toBool &&
    !createViolatesNotNull dto

/-- The assignee that the system chooses. -/
def chosenAssignee (projectId : ℕ) (db : Db) : Option ℕ :=
  (workloadByProject projectId db).head?.map (·.userId)

omit [Postgres] in
/-- The system chooses a user that exists. -/
theorem get?_of_chosenAssignee {projectId id : ℕ} {db : Db}
    (chosen : chosenAssignee projectId db = some id) : (db.users.get? id).isSome := by
  obtain ⟨none, some⟩ := head?_workloadByProject projectId db
  by_cases empty : developers db = []
  · rw [chosenAssignee, none empty] at chosen
    cases chosen
  · obtain ⟨user, ⟨member, -⟩, first⟩ := some empty
    rw [chosenAssignee, first] at chosen
    obtain rfl := Option.some.inj chosen
    have found : db.users.get? user.id = _ := Table.get?_key (mem_developers.mp member).1
    rw [found]
    rfl

/-- The outcomes of a creation without an assignee. -/
inductive Creation (dto : CreateTicketDto) (db : Db) : Except Exception Response × Db → Prop
  | stored {row : TicketRow} {after : Db} (accepted : dto.isAccepted db = true)
      (tickets : after.tickets.rows = db.tickets.rows ++ [row]) (users : after.users = db.users)
      (projects : after.projects = db.projects)
      (assignee : row.assigneeId = chosenAssignee dto.projectId db)
      (project : row.projectId = dto.projectId) (status : row.status = dto.status.getD .todo)
      (live : row.isLive = true) : Creation dto db (.ok (.ticket (toTicketResponse row)), after)
  | rejected {exception : Exception} {after : Db} (refused : dto.isAccepted db = false)
      (same : SameRows db after) : Creation dto db (.error exception, after)

/-- The project of a request, read alone. -/
theorem ProjectsService.run_assertExists {α : Type} (id : ℕ) (next : Unit → Service α) (db : Db) :
    (assertExists id >>= next).run exec db =
      match ProjectsRepository.findById id db with
      | some _ => (next ()).run exec db
      | none => (.error (.http .notFound s!"Project {id} not found"), db) := by
  rw [assertExists, getOrThrow, Program.bind_assoc, Program.bind_assoc, run_select, Query.eval]
  cases ProjectsRepository.findById id db <;> rfl

/-- The INSERT of a creation without an assignee, and what follows it. -/
theorem TicketsService.create_run {dto : CreateTicketDto}
    (unassigned : dto.assigneeId = .undefined) (performedBy : ℕ) (db : Db)
    (project : (ProjectsRepository.findById dto.projectId db).isSome) :
    let input := { dto with assigneeId := effectiveAssignee dto (chosenAssignee dto.projectId db) }
    (∀ row stored, TicketsRepository.create input db = (.ok row, stored) →
      ∃ entries : List AuditInsert, (create dto performedBy).run exec db =
        (.ok (toTicketResponse row), entries.foldl Db.log stored)) ∧
    ∀ error after, TicketsRepository.create input db = (.error error, after) →
      (create dto performedBy).run exec db = (.error (.database error), after) := by
  have supplied : dto.assigneeId.isDefined = false := by rw [unassigned]; rfl
  unfold create
  rw [ProjectsService.run_assertExists]
  cases found : ProjectsRepository.findById dto.projectId db with
  | none => rw [found] at project; cases project
  | some row =>
      simp only [assertAssigneeExists, autoAssign, supplied, Bool.false_eq_true, if_false,
        Program.pure_eq, Program.done_ok_bind, Program.bind_assoc]
      -- The INSERT is answered with a row, or its failure is thrown.
      constructor
      · intro row stored executed
        rw [chosenAssignee] at executed
        rw [run_select, run_execute]
        simp only [Query.eval, Command.exec]
        rw [executed]
        simp only [AuditService.run_log]
        obtain ⟨entries, run, -⟩ := logAutoAssign_run (AuditRepository.insert _ stored).2 row.id _
          (toTicketResponse row)
        exact ⟨_ :: entries, run⟩
      · intro error after executed
        rw [chosenAssignee] at executed
        rw [run_select, run_execute]
        simp only [Query.eval, Command.exec]
        rw [executed]

variable [Bcrypt] [Unicode]

/-- **A creation without an assignee** stores the ticket it answers with, for the
developer of the workload query; or it is rejected and stores nothing. -/
theorem serve_createTicket (dto : CreateTicketDto) (performedBy : ℕ)
    (unassigned : dto.assigneeId = .undefined) (db : Db) :
    Creation dto db (serve (.createTicket dto performedBy) db) := by
  have ran : serve (.createTicket dto performedBy) db =
      (.ticket <$> TicketsService.create dto performedBy).run exec db := rfl
  rw [Program.run_map] at ran
  cases project : ProjectsRepository.findById dto.projectId db with
  | none =>
      rw [ran, TicketsService.create, ProjectsService.run_assertExists, project]
      exact .rejected (by rw [CreateTicketDto.isAccepted, project]; rfl) (.refl db)
  | some found =>
      have isSome : (ProjectsRepository.findById dto.projectId db).isSome := by rw [project]; rfl
      obtain ⟨succeeds, fails⟩ := TicketsService.create_run unassigned performedBy db isSome
      have accepted : dto.isAccepted db =
          ((dueInstant dto.dueDate).toBool && !createViolatesNotNull dto) := by
        rw [CreateTicketDto.isAccepted, isSome, Bool.true_and]
      rw [create_eq] at succeeds fails
      simp only at succeeds fails
      cases due : dueInstant dto.dueDate with
      | error exception =>
          rw [due] at accepted fails
          rw [ran, fails _ _ rfl]
          exact .rejected accepted (.refl db)
      | ok instant =>
          rw [due] at accepted succeeds fails
          cases null : createViolatesNotNull dto with
          | true =>
              rw [null] at accepted
              rw [ran, fails _ _ (if_pos null)]
              exact .rejected accepted (by constructor <;> rfl)
          | false =>
              rw [null] at accepted
              -- The project is live and the chosen developer is a user.
              have exist : referencesExist db (createdRow
                  { dto with
                    assigneeId :=
                      TicketsService.effectiveAssignee dto (chosenAssignee dto.projectId db) }
                  instant db.now db.tickets.next) = true := by
                rw [referencesExist, Bool.and_eq_true]
                constructor
                · exact Option.isSome_of_eq_some (Option.filter_eq_some_iff.mp project).1
                · rw [createdRow, TicketsService.effectiveAssignee_undefined _ unassigned]
                  cases chosen : chosenAssignee dto.projectId db with
                  | none => rfl
                  | some assignee => exact get?_of_chosenAssignee chosen
              obtain ⟨entries, run⟩ := succeeds _ _
                ((if_neg (Bool.eq_false_iff.mp null)).trans (if_pos exist))
              obtain ⟨auditLogs, logged⟩ := Db.foldl_log entries _
              rw [ran, run, logged]
              refine .stored accepted rfl rfl rfl ?_ rfl rfl rfl
              exact TicketsService.effectiveAssignee_undefined _ unassigned

end Creation

/-! ### A run of creations -/

section Runs

open TicketsRepository

variable [Postgres]

/-- A creation of a ticket without an assignee that is not `DONE`; or the clock. -/
def Input.isCreation (projectId : ℕ) : Input → Bool
  | .request (.createTicket dto _) =>
      dto.projectId = projectId && dto.assigneeId = .undefined && dto.status ≠ .value .done
  | .request _ => false
  | .advance _ => true

omit [Postgres] in
theorem Input.isCreation_cases {projectId : ℕ} {input : Input}
    (creation : input.isCreation projectId = true) :
    (∃ elapsed, input = .advance elapsed) ∨
      ∃ dto performedBy, input = .request (.createTicket dto performedBy) ∧
        dto.projectId = projectId ∧ dto.assigneeId = .undefined ∧ dto.status ≠ .value .done := by
  unfold isCreation at creation
  split at creation
  · simp only [Bool.and_eq_true, decide_eq_true_eq] at creation
    exact .inr ⟨_, _, rfl, creation.1.1, creation.1.2, creation.2⟩
  · cases creation
  · exact .inl ⟨_, rfl⟩

/-- A creation that is accepted. -/
def Input.isAccepted (db : Db) : Input → Bool
  | .request (.createTicket dto _) => dto.isAccepted db
  | _ => false

/-- What a run of creations has done. -/
structure Assigned (projectId : ℕ) (db : Db) (created : List TicketRow) (after : Db) : Prop where
  tickets : after.tickets.rows = db.tickets.rows ++ created
  users : after.users.rows = db.users.rows
  projects : after.projects.rows = db.projects.rows
  unassigned : developers db = [] → ∀ row ∈ created, row.assigneeId = none
  handout : developers db ≠ [] → ∃ chosen : List UserRow,
    created.map (·.assigneeId) = chosen.map (fun user => some user.id) ∧
      Handout (developers db) (Preferred (developers db) (·.createdAt)) (openCount projectId db)
        chosen (openCount projectId after)

variable {projectId : ℕ} {db middle after : Db} {created : List TicketRow}

omit [Postgres] in
theorem developers_congr (users : after.users.rows = db.users.rows) :
    developers after = developers db := by
  rw [developers, users, developers]

omit [Postgres] in
theorem openCount_congr (tickets : after.tickets.rows = db.tickets.rows) :
    openCount projectId after = openCount projectId db := by
  funext user
  rw [openCount, openTickets, tickets, openCount, openTickets]

theorem CreateTicketDto.isAccepted_congr (dto : CreateTicketDto)
    (projects : after.projects.rows = db.projects.rows) :
    dto.isAccepted after = dto.isAccepted db := by
  rw [isAccepted, ProjectsRepository.findById, Table.get?, projects, isAccepted,
    ProjectsRepository.findById, Table.get?]

theorem Input.isAccepted_congr (input : Input)
    (projects : after.projects.rows = db.projects.rows) :
    input.isAccepted after = input.isAccepted db := by
  unfold isAccepted
  split
  · exact CreateTicketDto.isAccepted_congr _ projects
  · rfl

omit [Postgres] in
theorem Assigned.nil (projectId : ℕ) (db : Db) : Assigned projectId db [] db where
  tickets := (List.append_nil _).symm
  users := rfl
  projects := rfl
  unassigned _ row member := by cases member
  handout _ := ⟨[], rfl, .nil _⟩

omit [Postgres] in
/-- A step that stores nothing. -/
theorem Assigned.skip (users : middle.users.rows = db.users.rows)
    (projects : middle.projects.rows = db.projects.rows)
    (tickets : middle.tickets.rows = db.tickets.rows)
    (rest : Assigned projectId middle created after) : Assigned projectId db created after where
  tickets := rest.tickets.trans (congrArg (· ++ created) tickets)
  users := rest.users.trans users
  projects := rest.projects.trans projects
  unassigned := by
    rw [← developers_congr users]
    exact rest.unassigned
  handout := by
    rw [← developers_congr users, ← openCount_congr tickets]
    exact rest.handout

omit [Postgres] in
/-- The developer that a new ticket is assigned to has one more open ticket. -/
theorem takes_of_created {row : TicketRow} {user : UserRow}
    (tickets : after.tickets.rows = db.tickets.rows ++ [row]) (member : user ∈ developers db)
    (assignee : row.assigneeId = some user.id) (project : row.projectId = projectId)
    (unresolved : row.status ≠ .done) (live : row.isLive = true) :
    Takes (developers db) user (openCount projectId db) (openCount projectId after) := by
  intro other otherMember
  -- Users are told apart by their ids.
  have told : user.id = other.id ↔ other = user := by
    constructor
    · intro same
      exact Table.eq_of_key_eq (mem_developers.mp otherMember).1 (mem_developers.mp member).1
        same.symm
    · rintro rfl
      rfl
  have counted : (row.assigneeId = some other.id && row.projectId = projectId &&
      row.status ≠ .done && row.isLive) = decide (other = user) := by
    simp [assignee, told, project, unresolved, live]
  rw [openCount, openTickets, tickets, List.filter_append, List.length_append, List.filter_cons,
    counted]
  by_cases same : other = user
  · rw [if_pos (decide_eq_true same), if_pos same]
    rfl
  · rw [if_neg (by simpa using same), if_neg same]
    rfl

omit [Postgres] in
/-- A step that stores a ticket for the developer of the workload query. -/
theorem Assigned.cons {row : TicketRow} (tickets : middle.tickets.rows = db.tickets.rows ++ [row])
    (users : middle.users = db.users) (projects : middle.projects = db.projects)
    (assignee : row.assigneeId = chosenAssignee projectId db) (project : row.projectId = projectId)
    (unresolved : row.status ≠ .done) (live : row.isLive = true)
    (rest : Assigned projectId middle created after) :
    Assigned projectId db (row :: created) after where
  tickets := by rw [rest.tickets, tickets, List.append_assoc, List.singleton_append]
  users := rest.users.trans (congrArg Table.rows users)
  projects := rest.projects.trans (congrArg Table.rows projects)
  unassigned := by
    intro none other member
    rcases List.mem_cons.mp member with rfl | member
    · rw [assignee, chosenAssignee, (head?_workloadByProject projectId db).1 none]
      rfl
    · exact rest.unassigned ((developers_congr (congrArg Table.rows users)).trans none) other member
  handout := by
    intro some
    have same : developers middle = developers db := developers_congr (congrArg Table.rows users)
    obtain ⟨user, preferred, first⟩ := (head?_workloadByProject projectId db).2 some
    obtain ⟨chosen, assigned, handout⟩ := rest.handout (same ▸ some)
    rw [same] at handout
    have own : row.assigneeId = .some user.id := assignee.trans first
    refine ⟨user :: chosen, ?_, .cons preferred ?_ handout⟩
    · rw [List.map_cons, List.map_cons, assigned, own]
    · exact takes_of_created tickets preferred.1 own project unresolved live

omit [Postgres] in
/-- The spread after a run of creations. -/
theorem Assigned.spread_le (assigned : Assigned projectId db created after) :
    spread projectId after ≤ max 1 (spread projectId db) := by
  have same : developers after = developers db := developers_congr assigned.users
  rw [spread_le_iff, same]
  by_cases none : developers db = []
  · intro developer member
    rw [none] at member
    cases member
  · obtain ⟨chosen, -, handout⟩ := assigned.handout none
    have least := handout.mono fun _ _ preferred => preferred.leastLoaded
    exact least.within (spread_le_iff.mp le_rfl)

omit [Postgres] in
/-- Developers that have registered at different times are listed in that order. -/
theorem developers_ascending (distinct : ((developers db).map (·.createdAt)).Nodup) :
    (developers db).Pairwise fun first second => first.createdAt < second.createdAt := by
  have sorted : (developers db).Pairwise fun first second => first.createdAt ≤ second.createdAt :=
    List.pairwise_insertionSort _ _
  exact sorted.imp₂ (fun _ _ ordered different => lt_of_le_of_ne ordered different)
    (List.pairwise_map.mp distinct)

omit [Postgres] in
/-- The turns of the developers, and what they have gained after whole rounds. -/
theorem Assigned.turns (assigned : Assigned projectId db created after)
    (ascending : (developers db).Pairwise fun first second => first.createdAt < second.createdAt)
    (equal : ∀ first ∈ developers db, ∀ second ∈ developers db,
      openCount projectId db first = openCount projectId db second) :
    (∀ (i : ℕ) (bound : i < created.length),
        created[i].assigneeId = (developers db)[i % (developers db).length]?.map (·.id)) ∧
      ∀ k, created.length = k * (developers db).length → ∀ developer ∈ developers db,
        openCount projectId after developer = openCount projectId db developer + k := by
  by_cases none : developers db = []
  · rw [none]
    refine ⟨fun i bound => assigned.unassigned none _ (List.getElem_mem bound), ?_⟩
    rintro k - developer member
    cases member
  · obtain ⟨chosen, assignees, handout⟩ := assigned.handout none
    obtain ⟨first, firstMember⟩ := List.exists_mem_of_ne_nil _ none
    -- With equal loads it is the turn of the developer who registered first.
    have start : InTurn (developers db) (openCount projectId db first) 0 (openCount projectId db) :=
      .zero fun developer member => equal developer member first firstMember
    obtain ⟨turns, final⟩ := handout.roundRobin ascending start
    have length : created.length = chosen.length := by
      simpa using congrArg List.length assignees
    constructor
    · intro i bound
      have turn := turns i (length ▸ bound)
      rw [Nat.zero_add] at turn
      have entry := congrArg (·[i]?) assignees
      simp only [List.getElem?_map, List.getElem?_eq_getElem bound,
        List.getElem?_eq_getElem (length ▸ bound), Option.map_some] at entry
      rw [turn]
      exact Option.some.inj entry
    · -- After whole rounds nobody is ahead, so everybody has gained the same.
      intro k rounds developer member
      obtain ⟨i, bound, rfl⟩ := List.mem_iff_getElem.mp member
      have gained := final.load_eq bound
      rw [Nat.zero_add, ← length, rounds, Nat.mul_mod_left, if_neg (Nat.not_lt_zero i),
        Nat.mul_div_cancel _ (Nat.zero_lt_of_lt bound)] at gained
      rw [gained, equal _ member first firstMember, Nat.add_zero]

variable [Bcrypt] [Unicode]

/-- The ticket that a request is answered with. -/
def Input.answer (db : Db) : Input → Option TicketResponse
  | .request sent =>
      match (serve sent db).1 with
      | .ok (.ticket created) => some created
      | _ => none
  | .advance _ => none

/-- The tickets that the requests of a run are answered with. -/
def createdAlong : List Input → Db → List TicketResponse
  | [], _ => []
  | input :: inputs, db => (input.answer db).toList ++ createdAlong inputs (input.apply db)

/-- **A run of creations** hands out the tickets it stores: those it answers
with, one for each request that is accepted. -/
theorem serveAll_assigned {inputs : List Input}
    (creations : ∀ input ∈ inputs, input.isCreation projectId = true) (db : Db) :
    ∃ created, Assigned projectId db created (serveAll inputs db) ∧
      created.map toTicketResponse = createdAlong inputs db ∧
      created.length = inputs.countP (·.isAccepted db) := by
  induction inputs generalizing db with
  | nil => exact ⟨[], .nil projectId db, rfl, rfl⟩
  | cons input inputs ih =>
      obtain ⟨first, creations⟩ := List.forall_mem_cons.mp creations
      obtain ⟨created, assigned, answers, count⟩ := ih creations (input.apply db)
      -- The projects stay, so the same requests are accepted later on.
      have later (projects : (input.apply db).projects.rows = db.projects.rows) :
          created.length = inputs.countP (·.isAccepted db) := by
        rw [count]
        apply List.countP_congr
        intro other member
        rw [Input.isAccepted_congr other projects]
      rcases Input.isCreation_cases first with
        ⟨elapsed, rfl⟩ | ⟨dto, performedBy, rfl, project, unassigned, unresolved⟩
      · refine ⟨created, .skip ?_ ?_ ?_ assigned, answers, later rfl⟩ <;> rfl
      · have creation := serve_createTicket dto performedBy unassigned db
        generalize served : serve (.createTicket dto performedBy) db = outcome at creation
        have apply : (Input.request (.createTicket dto performedBy)).apply db = outcome.2 :=
          congrArg Prod.snd served
        have answer : (Input.request (.createTicket dto performedBy)).answer db =
            match outcome.1 with
            | .ok (.ticket created) => some created
            | _ => none := by
          rw [Input.answer, served]
        have run : serveAll (.request (.createTicket dto performedBy) :: inputs) db =
            serveAll inputs outcome.2 := congrArg (serveAll inputs) apply
        rw [apply] at assigned answers later
        rw [run, createdAlong, answer, apply, ← answers]
        cases creation with
        | @stored row after accepted tickets users projects assignee target status live =>
            have taken : (Input.request (.createTicket dto performedBy)).isAccepted db = true :=
              accepted
            have counts : row.status ≠ .done := by
              rw [status]
              cases supplied : dto.status with
              | undefined => decide
              | null => decide
              | value given =>
                  intro same
                  exact unresolved (supplied.trans (congrArg _ same))
            rw [project] at assignee target
            refine ⟨row :: created, ?_, rfl, ?_⟩
            · exact .cons tickets users projects assignee target counts live assigned
            · rw [List.countP_cons_of_pos taken, List.length_cons,
                later (congrArg Table.rows projects)]
        | @rejected exception after refused same =>
            have missed : ¬ (Input.request (.createTicket dto performedBy)).isAccepted db = true :=
              Bool.eq_false_iff.mp refused
            refine ⟨created, ?_, rfl, ?_⟩
            · exact .skip same.users same.projects same.tickets assigned
            · rw [List.countP_cons_of_neg missed, later same.projects]

/-- **Auto-assignment balances the load.** Along every run of creations without
an assignee the spread of open tickets over the developers of a project stays
below the larger of 1 and the spread at the start. If the developers have
registered at different times and have equally many open tickets at the start,
creation `i` goes to developer `i mod n` in the order of registration, so that
`k * n` creations give each of them `k` tickets. Without developers nobody is
assigned. Every accepted creation succeeds. -/
theorem auto_assignment_balances {inputs : List Input} (projectId : ℕ) (db : Db)
    (creations : ∀ input ∈ inputs, input.isCreation projectId = true)
    (distinct : ((developers db).map (·.createdAt)).Nodup) :
    let after := serveAll inputs db
    let created := createdAlong inputs db
    let n := (developers db).length
    (∃ rows, after.tickets.rows = db.tickets.rows ++ rows ∧ rows.map toTicketResponse = created) ∧
      created.length = inputs.countP (·.isAccepted db) ∧
      spread projectId after ≤ max 1 (spread projectId db) ∧
      ((∀ first ∈ developers db, ∀ second ∈ developers db,
          openCount projectId db first = openCount projectId db second) →
        (∀ (i : ℕ) (bound : i < created.length),
          created[i].assigneeId = (developers db)[i % n]?.map (·.id)) ∧
        ∀ k, created.length = k * n → ∀ developer ∈ developers db,
          openCount projectId after developer = openCount projectId db developer + k) ∧
      (developers db = [] → ∀ ticket ∈ created, ticket.assigneeId = none) := by
  obtain ⟨rows, assigned, answers, count⟩ := serveAll_assigned creations db
  simp only [← answers, List.length_map]
  refine ⟨⟨rows, assigned.tickets, rfl⟩, count, assigned.spread_le, ?_, ?_⟩
  · intro equal
    -- From equal loads on, the developers take turns.
    obtain ⟨turns, gains⟩ := assigned.turns (developers_ascending distinct) equal
    refine ⟨?_, gains⟩
    intro i bound
    rw [List.getElem_map]
    exact turns i bound
  · intro none ticket member
    obtain ⟨row, stored, rfl⟩ := List.mem_map.mp member
    exact assigned.unassigned none row stored

end Runs

/-! ### Two developers -/

section Turns

open TicketsRepository Sample

/-- A user called `root`, a project, and two developers of whom the second one
has registered a second later. -/
def Sample.twoDevelopers : Db :=
  serveAll (setup ++
    [.request (.createUser ⟨"first", "first@example.com", "First", .developer, .undefined⟩ none ""),
      .advance 1000,
      .request
        (.createUser ⟨"second", "second@example.com", "Second", .developer, .undefined⟩ none "")])
    Db.empty

/-- Three creations, and one for a due date that is no date. -/
def Sample.fourCreations : List Input :=
  [ticket .todo, ticket .inReview,
    .request (.createTicket ⟨"Ticket", .undefined, .undefined, .undefined, .bug, 1, .undefined,
      .value "tomorrow"⟩ 1),
    .advance 1000, ticket .todo]

theorem twoDevelopers_balanced :
    let after := serveAll fourCreations twoDevelopers
    let created := createdAlong fourCreations twoDevelopers
    let n := (developers twoDevelopers).length
    (∃ rows, after.tickets.rows = twoDevelopers.tickets.rows ++ rows ∧
        rows.map toTicketResponse = created) ∧
      created.length = fourCreations.countP (·.isAccepted twoDevelopers) ∧
      spread 1 after ≤ max 1 (spread 1 twoDevelopers) ∧
      ((∀ first ∈ developers twoDevelopers, ∀ second ∈ developers twoDevelopers,
          openCount 1 twoDevelopers first = openCount 1 twoDevelopers second) →
        (∀ (i : ℕ) (bound : i < created.length),
          created[i].assigneeId = (developers twoDevelopers)[i % n]?.map (·.id)) ∧
        ∀ k, created.length = k * n → ∀ developer ∈ developers twoDevelopers,
          openCount 1 after developer = openCount 1 twoDevelopers developer + k) ∧
      (developers twoDevelopers = [] → ∀ ticket ∈ created, ticket.assigneeId = none) :=
  auto_assignment_balances 1 twoDevelopers (by decide +kernel) (by decide +kernel)

/-- The tickets of the run go to the first, the second and the first developer. -/
example : (createdAlong fourCreations twoDevelopers).map (·.assigneeId) =
    [some 2, some 3, some 2] := by
  decide +kernel

end Turns

end IssueFlow
