import IssueFlow.Properties.DependencyGraph
import IssueFlow.System.LastVersion
import IssueFlow.System.TicketEffects

/-!
# The blocker rules never deadlock

When requests are served one at a time, the walk of an add sees the graph its
row is inserted into, so the graph stays acyclic. In an acyclic graph some open
ticket has no open blocker, and a PATCH moves it to `DONE`; every such PATCH
leaves one open ticket less. What can stand in the way is the version alone: it
is an `INTEGER`, and a ticket with the last one takes no PATCH any more.

## Main definitions

* `Db.unresolvedIds` — the live tickets that are not `DONE`
* `resolve` — the PATCH that moves a ticket to `DONE`
* `Resolves` — PATCHes to `DONE` that all succeed, one after the other

## Main results

* `serveAll_acyclic` — the graph is acyclic in every reachable state
* `serve_resolve_iff` — when a PATCH to `DONE` of an unblocked ticket succeeds
* `never_deadlocks_iff` — when all open tickets can be moved to `DONE`, one by one
* `last_version_deadlocks` — a reachable state in which none can
-/

namespace IssueFlow

open Store Semantics JavaScript IssueFlow.Graph

/-- The live tickets that are not `DONE`. -/
def Db.unresolvedIds (db : Db) : Finset ℕ :=
  ((db.tickets.rows.map (·.id)).filter fun id => db.isUnresolved id).toFinset

/-- The body `{status: DONE, version}`. -/
def toDone (version : ℕ) : UpdateTicketDto where
  title := .undefined
  description := .undefined
  status := .value .done
  priority := .undefined
  assigneeId := .undefined
  dueDate := .undefined
  version := .value version

/-- The PATCH that moves a ticket to `DONE`. -/
def resolve (id version performedBy : ℕ) : Request := .updateTicket id (toDone version) performedBy

/-- The ticket after the PATCH to `DONE`. -/
def resolvedRow (now : Timestamp) (row : TicketRow) : TicketRow :=
  { row with status := .done, version := row.version + 1, updatedAt := now }

section Unresolved

variable {db : Db} {id : ℕ}

theorem isUnresolved_iff :
    db.isUnresolved id ↔
      ∃ row, TicketsRepository.findById id db = some row ∧ row.status ≠ .done := by
  simp only [Db.isUnresolved, TicketsRepository.findById, Option.any_eq_true, Bool.and_eq_true,
    decide_eq_true_eq, Option.filter_eq_some_iff, and_assoc]

@[simp] theorem mem_unresolvedIds : id ∈ db.unresolvedIds ↔ db.isUnresolved id := by
  simp only [Db.unresolvedIds, List.mem_toFinset, List.mem_filter, List.mem_map,
    and_iff_right_iff_imp]
  intro unresolved
  obtain ⟨row, found, -⟩ := (Option.any_eq_true ..).mp unresolved
  exact ⟨row, Table.mem_of_get? found, Table.key_of_get? found⟩

/-- In an acyclic graph some open ticket has no open blocker. -/
theorem exists_unblocked (acyclic : Acyclic db.blockedBy) (unresolved : db.isUnresolved id) :
    ∃ first, db.isUnresolved first ∧ db.Unblocked first := by
  obtain ⟨first, member, minimal⟩ :=
    acyclic.exists_minimal db.unresolvedIds ⟨id, mem_unresolvedIds.mpr unresolved⟩
  refine ⟨first, mem_unresolvedIds.mp member, fun blockerId edge => ?_⟩
  have closed := minimal blockerId edge
  simpa using closed

/-- A PATCH to `DONE` leaves one open ticket less. -/
theorem unresolvedIds_resolved {row : TicketRow} {after : Db}
    (found : TicketsRepository.findById id db = some row)
    (tickets : after.tickets = db.tickets.set (resolvedRow db.now row)) :
    after.unresolvedIds = db.unresolvedIds.erase id := by
  obtain ⟨stored, -⟩ := Option.filter_eq_some_iff.mp found
  have key : row.id = id := Table.key_of_get? stored
  have same_key : Keyed.key (resolvedRow db.now row) = id := key
  ext other
  rw [Finset.mem_erase, mem_unresolvedIds, mem_unresolvedIds, Db.isUnresolved, Db.isUnresolved,
    tickets, Table.get?_set, same_key]
  by_cases same : other = id
  · subst same
    simp [stored, resolvedRow]
  · simp [same]

end Unresolved

section Sequential

variable [Postgres]

omit [Postgres] in
/-- While a request has only read, its walk is current. -/
theorem ReadsAt.isCurrent {start state : Db} {events : History} {blockerId : ℕ}
    (readsAt : ReadsAt start events state) (reads : OnlyReads events) :
    IsCurrent blockerId events state := by
  rintro row member ⟨read, read_member, same⟩
  obtain ⟨event, event_member, answered⟩ := List.mem_filterMap.mp read_member
  obtain ⟨rfl, earlier⟩ := readsAt reads
  have here : read.2 = state := by
    split at answered
    · obtain rfl := Option.some.inj answered
      exact earlier event event_member
    · cases answered
  refine .inr ⟨read, read_member, ?_⟩
  rw [here]
  exact ⟨row, member, same.symm, rfl⟩

variable [Bcrypt] [Unicode]

/-- A request that is served alone keeps the graph acyclic. -/
theorem serve_acyclic (request : Request) {db : Db} (acyclic : Acyclic db.blockedBy) :
    Acyclic (serve request db).2.blockedBy := by
  refine serve_invariant (fun state => Acyclic state.blockedBy) acyclic ?_
  intro events statement state readsAt holds sends
  refine acyclic_exec holds fun ticketId blockerId inserts => ?_
  subst inserts
  obtain ⟨-, -, reads, walked⟩ := sends.walked
  exact walked.separated (readsAt.isCurrent reads)

/-- The graph is acyclic in every state that requests reach one at a time. -/
theorem serveAll_acyclic (inputs : List Input) : Acyclic (serveAll inputs Db.empty).blockedBy := by
  refine serveAll_invariant (fun db => Acyclic db.blockedBy) ?_ ?_ ?_ inputs
  · exact acyclic_of_empty fun _ _ ⟨_, member, _⟩ => nomatch member
  · exact fun request db holds => serve_acyclic request holds
  · exact fun elapsed db holds => holds

end Sequential

/-! ### Moving tickets to `DONE` -/

section Patch

variable [Postgres] {id : ℕ} {row : TicketRow} {db : Db}

/-- The UPDATE of a PATCH to `DONE` with the current version takes effect. -/
theorem updateWithVersionCheck_toDone (found : TicketsRepository.findById id db = some row)
    (successor : versionOverflows row.version = false) :
    TicketsRepository.updateWithVersionCheck id (toDone row.version).version.toOption
      (toDone row.version).toTicketUpdate (toDone row.version).priority.isDefined db =
      (.ok (some (resolvedRow db.now row)),
        { db with tickets := db.tickets.set (resolvedRow db.now row) }) := by
  rw [TicketsRepository.updateWithVersionCheck_eq, found]
  simp [toDone, TicketsRepository.dueInstant, Field.toOption, TicketsRepository.violatesNotNull,
    Field.isNull, TicketsRepository.assigneeExists, TicketsRepository.patchedRow, Field.orKeep,
    Field.getD, Field.isDefined, Option.filter, resolvedRow, successor]

omit [Postgres] in
/-- No status is ahead of `DONE`. -/
theorem toDone_legal (before : TicketStatus) (version : ℕ) :
    TicketsService.isIllegalTransition before (toDone version).status = false := by
  cases before <;> rfl

end Patch

section Served

variable [Postgres] [Bcrypt] [Unicode] {id : ℕ} {row : TicketRow} {db : Db}

/-- **A PATCH to `DONE`** with the current version succeeds on an open ticket
without open blockers, and it changes no other ticket and no dependency. -/
theorem serve_resolve (found : TicketsRepository.findById id db = some row)
    (unresolved : row.status ≠ .done) (unblocked : db.Unblocked id)
    (successor : versionOverflows row.version = false) (performedBy : ℕ) :
    ∃ response after, serve (resolve id row.version performedBy) db = (.ok response, after) ∧
      after.tickets = db.tickets.set (resolvedRow db.now row) ∧
      after.ticketDependencies = db.ticketDependencies := by
  have wellFormed : (resolve id row.version performedBy).WellFormed := ⟨rfl, rfl, by simp [toDone]⟩
  obtain ⟨entry, run⟩ := TicketsService.run_update_passed wellFormed found unresolved
    (toDone_legal row.status row.version) (fun _ => unblocked) (by simp [toDone])
    (updateWithVersionCheck_toDone found successor)
  let stored : Db := { db with tickets := db.tickets.set (resolvedRow db.now row) }
  refine ⟨.ticket (toTicketResponse (resolvedRow db.now row)), stored.log entry, ?_, rfl, rfl⟩
  rw [serve, resolve, Request.program, Program.run_map, run]
  rfl

/-- Only a version that can be raised lets it succeed. -/
theorem successor_of_resolve {performedBy : ℕ} {response : Response}
    (found : TicketsRepository.findById id db = some row)
    (accepted : (serve (resolve id row.version performedBy) db).1 = .ok response) :
    versionOverflows row.version = false := by
  obtain ⟨stored, due, found', -, -, -, successor, -⟩ := serve_updateTicket_tickets accepted
  obtain rfl := Option.some.inj (found.symm.trans found')
  exact successor

/-- **When a PATCH to `DONE` of an unblocked ticket succeeds.** -/
theorem serve_resolve_iff (found : TicketsRepository.findById id db = some row)
    (unresolved : row.status ≠ .done) (unblocked : db.Unblocked id) (performedBy : ℕ) :
    (∃ response, (serve (resolve id row.version performedBy) db).1 = .ok response) ↔
      versionOverflows row.version = false := by
  constructor
  · rintro ⟨response, accepted⟩
    exact successor_of_resolve found accepted
  · intro successor
    obtain ⟨response, after, accepted, -, -⟩ :=
      serve_resolve found unresolved unblocked successor performedBy
    exact ⟨response, congrArg Prod.fst accepted⟩

/-- PATCHes to `DONE` of the listed tickets, each with the version its ticket
then has. All of them succeed. -/
inductive Resolves (performedBy : ℕ) : List ℕ → Db → Db → Prop
  | nil (db : Db) : Resolves performedBy [] db db
  | cons {id : ℕ} {ids : List ℕ} {db middle after : Db} {row : TicketRow} {response : Response}
      (found : TicketsRepository.findById id db = some row) (unresolved : row.status ≠ .done)
      (accepted : serve (resolve id row.version performedBy) db = (.ok response, middle))
      (rest : Resolves performedBy ids middle after) : Resolves performedBy (id :: ids) db after

/-- Every open ticket has a version that can be raised. -/
def Db.VersionsLeft (db : Db) : Prop :=
  ∀ id row, TicketsRepository.findById id db = some row → row.status ≠ .done →
    versionOverflows row.version = false

omit [Postgres] [Bcrypt] [Unicode] in
/-- A PATCH to `DONE` leaves the other tickets as they are. -/
theorem findById_resolved {after : Db} {other : ℕ}
    (found : TicketsRepository.findById id db = some row)
    (tickets : after.tickets = db.tickets.set (resolvedRow db.now row)) (different : other ≠ id) :
    TicketsRepository.findById other after = TicketsRepository.findById other db := by
  have own : row.id = id := Table.key_of_get? (Option.filter_eq_some_iff.mp found).1
  have key : Keyed.key (resolvedRow db.now row) = id := own
  rw [TicketsRepository.findById, TicketsRepository.findById, tickets, Table.get?_set, key,
    if_neg different]

/-- In an acyclic graph all open tickets can be moved to `DONE`, one by one, as
long as each has a version left. -/
theorem exists_resolves (performedBy : ℕ) (acyclic : Acyclic db.blockedBy)
    (left : db.VersionsLeft) :
    ∃ ids after, ids.length = db.unresolvedIds.card ∧ Resolves performedBy ids db after ∧
      ∀ id, after.isUnresolved id = false := by
  induction remaining : db.unresolvedIds.card generalizing db with
  | zero =>
      refine ⟨[], db, rfl, .nil db, fun id => ?_⟩
      have empty : db.unresolvedIds = ∅ := Finset.card_eq_zero.mp remaining
      by_contra unresolved
      have member : id ∈ db.unresolvedIds := mem_unresolvedIds.mpr (by simpa using unresolved)
      simp [empty] at member
  | succ n ih =>
      -- Some open ticket has no open blockers; resolving it leaves one open ticket less.
      obtain ⟨id, member⟩ : db.unresolvedIds.Nonempty := Finset.card_pos.mp (by omega)
      obtain ⟨first, unresolved, unblocked⟩ :=
        exists_unblocked acyclic (mem_unresolvedIds.mp member)
      obtain ⟨row, found, status⟩ := isUnresolved_iff.mp unresolved
      obtain ⟨response, middle, accepted, tickets, dependencies⟩ :=
        serve_resolve found status unblocked (left first row found status) performedBy
      have fewer : middle.unresolvedIds.card = n := by
        rw [unresolvedIds_resolved found tickets,
          Finset.card_erase_of_mem (mem_unresolvedIds.mpr unresolved)]
        omega
      have middle_acyclic : Acyclic middle.blockedBy :=
        acyclic.mono fun ticketId blockerId edge => by rwa [Db.blockedBy, dependencies] at edge
      -- The ticket that was resolved is not open any more, and the others keep their version.
      have middle_left : middle.VersionsLeft := by
        intro other stored foundOther open_
        have different : other ≠ first := by
          rintro rfl
          have closed := isUnresolved_iff.mpr ⟨stored, foundOther, open_⟩
          have erased := mem_unresolvedIds.mpr closed
          rw [unresolvedIds_resolved found tickets] at erased
          exact (Finset.mem_erase.mp erased).1 rfl
        rw [findById_resolved found tickets different] at foundOther
        exact left other stored foundOther open_
      obtain ⟨ids, after, length, rest, resolved⟩ := ih middle_acyclic middle_left fewer
      refine ⟨first :: ids, after, congrArg (· + 1) length, ?_, resolved⟩
      exact .cons found status accepted rest

/-- A ticket with the last version stays as it is while others are resolved. -/
theorem Resolves.kept {performedBy : ℕ} {ids : List ℕ} {after : Db}
    (resolves : Resolves performedBy ids db after)
    (found : TicketsRepository.findById id db = some row)
    (last : versionOverflows row.version = true) :
    TicketsRepository.findById id after = some row := by
  induction resolves with
  | nil db => exact found
  | @cons first ids db middle after resolved response foundFirst unresolved accepted rest ih =>
      apply ih
      have succeeded := congrArg Prod.fst accepted
      have successor := successor_of_resolve foundFirst succeeded
      have different : id ≠ first := by
        rintro rfl
        obtain rfl := Option.some.inj (found.symm.trans foundFirst)
        exact Bool.noConfusion (last.symm.trans successor)
      obtain ⟨stored, due, -, -, -, -, -, tickets⟩ := serve_updateTicket_tickets succeeded
      have kept := tickets id
      rw [if_neg different] at kept
      change (serve (resolve first resolved.version performedBy) db).2.tickets.get? id = _ at kept
      rw [accepted] at kept
      rw [TicketsRepository.findById, kept]
      exact found

/-- **The blocker rules never deadlock.** In every state that requests reach one
at a time, an open ticket leaves some open ticket without unresolved blockers. A
PATCH moves such a ticket to `DONE` exactly if its version can be raised, and as
many PATCHes as there are open tickets move all of them exactly if all of their
versions can. -/
theorem never_deadlocks_iff (inputs : List Input) (performedBy : ℕ) :
    ((serveAll inputs Db.empty).unresolvedIds.Nonempty → ∃ id row,
      TicketsRepository.findById id (serveAll inputs Db.empty) = some row ∧ row.status ≠ .done ∧
        (serveAll inputs Db.empty).Unblocked id) ∧
    (∀ id row, TicketsRepository.findById id (serveAll inputs Db.empty) = some row →
      row.status ≠ .done → (serveAll inputs Db.empty).Unblocked id →
        ((∃ response, (serve (resolve id row.version performedBy)
          (serveAll inputs Db.empty)).1 = .ok response) ↔ row.version < MAX_INTEGER)) ∧
    ((∃ ids after, ids.length = (serveAll inputs Db.empty).unresolvedIds.card ∧
      Resolves performedBy ids (serveAll inputs Db.empty) after ∧
        ∀ id row, TicketsRepository.findById id after = some row → row.status = .done) ↔
      ∀ id row, TicketsRepository.findById id (serveAll inputs Db.empty) = some row →
        row.status ≠ .done → row.version < MAX_INTEGER) := by
  have acyclic := serveAll_acyclic inputs
  have successor (version : ℕ) : versionOverflows version = false ↔ version < MAX_INTEGER := by
    rw [versionOverflows, decide_eq_false_iff_not, not_le]
  refine ⟨?_, ?_, ?_, ?_⟩
  · rintro ⟨id, member⟩
    obtain ⟨first, unresolved, unblocked⟩ :=
      exists_unblocked acyclic (mem_unresolvedIds.mp member)
    obtain ⟨row, found, status⟩ := isUnresolved_iff.mp unresolved
    exact ⟨first, row, found, status, unblocked⟩
  · intro id row found status unblocked
    rw [serve_resolve_iff found status unblocked performedBy, successor]
  · rintro ⟨ids, after, -, resolves, resolved⟩ id row found status
    -- A ticket with the last version would still be open at the end.
    rw [← successor, Bool.eq_false_iff]
    exact fun last => status (resolved id row (resolves.kept found last))
  · intro left
    obtain ⟨ids, after, length, resolves, resolved⟩ := exists_resolves performedBy acyclic
      fun id row found status => (successor row.version).mpr (left id row found status)
    refine ⟨ids, after, length, resolves, fun id row found => ?_⟩
    by_contra status
    have unresolved := isUnresolved_iff.mpr ⟨row, found, status⟩
    rw [resolved id] at unresolved
    cases unresolved

end Served

section Example

open Sample

/-- Two open tickets of which 2 blocks 1: the PATCH of ticket 2 succeeds. -/
theorem never_deadlocks_blocked :
    (∃ id row, TicketsRepository.findById id (serveAll blockedTickets Db.empty) = some row ∧
      row.status ≠ .done ∧ (serveAll blockedTickets Db.empty).Unblocked id) ∧
    ∃ row response,
      TicketsRepository.findById 2 (serveAll blockedTickets Db.empty) = some row ∧
      (serve (resolve 2 row.version 1) (serveAll blockedTickets Db.empty)).1 = .ok response := by
  obtain ⟨exists_open, accepts, -⟩ := never_deadlocks_iff blockedTickets 1
  refine ⟨exists_open (by decide +kernel), ?_⟩
  have read : (TicketsRepository.findById 2 (serveAll blockedTickets Db.empty)).map
      (fun row => (row.status, row.version)) = some (.todo, 1) := by
    decide +kernel
  obtain ⟨row, found, values⟩ := Option.map_eq_some_iff.mp read
  obtain ⟨status, version⟩ := Prod.mk.inj values
  have unblocked : (serveAll blockedTickets Db.empty).Unblocked 2 :=
    DependenciesRepository.countUnresolvedBlockers_eq_zero.mp (by decide +kernel)
  obtain ⟨response, accepted⟩ :=
    (accepts 2 row found (by rw [status]; decide) unblocked).mpr (by rw [version]; decide)
  exact ⟨row, response, found, accepted⟩

/-- One open ticket whose version was raised to the last `INTEGER`. -/
def exhausted : List Input :=
  setup ++ [ticket .todo] ++ retitles 1 "Ticket" 1 1 2147483646

/-- Its only ticket is open and has the last version. -/
theorem exhausted_tickets :
    ∃ row, (serveAll exhausted Db.empty).tickets.rows = [row] ∧ row.isLive = true ∧
      row.status = .todo ∧ versionOverflows row.version = true := by
  have read : oneTicket.tickets.rows.map (fun row => (row.id, row.title, row.version)) =
      [(1, "Ticket", 1)] := by
    decide +kernel
  have settled : ∀ row ∈ oneTicket.tickets.rows, row.updatedAt = oneTicket.now ∧
      row.isLive = true ∧ row.status = .todo := by
    decide +kernel
  obtain ⟨row, rows, values⟩ := List.map_eq_singleton_iff.mp read
  obtain ⟨id, values⟩ := Prod.mk.inj values
  obtain ⟨title, version⟩ := Prod.mk.inj values
  obtain ⟨now, live, status⟩ := settled row (by rw [rows]; exact List.mem_singleton_self row)
  have found : TicketsRepository.findById 1 oneTicket = some row := by
    refine Option.filter_eq_some_iff.mpr ⟨?_, live⟩
    exact Table.get?_eq_some_iff.mpr ⟨by rw [rows]; exact List.mem_singleton_self row, id⟩
  obtain ⟨logs, reached⟩ := serveAll_retitles 1 2147483646 found (by rw [status]; decide) now
    (by rw [version]; decide)
  have final : (serveAll exhausted Db.empty).tickets =
      oneTicket.tickets.set { row with version := row.version + 2147483646 } := by
    have same : retitles 1 row.title row.version 1 2147483646 =
        retitles 1 "Ticket" 1 1 2147483646 := by
      rw [title, version]
    rw [same] at reached
    rw [exhausted, serveAll_append]
    exact congrArg Db.tickets reached
  refine ⟨{ row with version := row.version + 2147483646 }, ?_, live, status, ?_⟩
  · rw [final]
    simp [Table.set, Table.update, rows, Keyed.key]
  · show decide (MAX_INTEGER ≤ row.version + 2147483646) = true
    rw [version]
    decide

/-- **No PATCH moves it to `DONE`**, although nothing blocks it. -/
theorem last_version_deadlocks :
    (serveAll exhausted Db.empty).unresolvedIds.Nonempty ∧
    (¬ ∃ id row response, TicketsRepository.findById id (serveAll exhausted Db.empty) = some row ∧
      row.status ≠ .done ∧
      (serve (resolve id row.version 1) (serveAll exhausted Db.empty)).1 = .ok response) ∧
    ¬ ∃ ids after, Resolves 1 ids (serveAll exhausted Db.empty) after ∧
      ∀ id row, TicketsRepository.findById id after = some row → row.status = .done := by
  obtain ⟨row, rows, live, status, last⟩ := exhausted_tickets
  have member : row ∈ (serveAll exhausted Db.empty).tickets.rows := by
    rw [rows]
    exact List.mem_singleton_self row
  have found : TicketsRepository.findById row.id (serveAll exhausted Db.empty) = some row :=
    Option.filter_eq_some_iff.mpr ⟨Table.get?_key member, live⟩
  have open_ : row.status ≠ .done := by
    rw [status]
    decide
  refine ⟨⟨row.id, mem_unresolvedIds.mpr (isUnresolved_iff.mpr ⟨row, found, open_⟩)⟩, ?_, ?_⟩
  · rintro ⟨id, other, response, foundOther, -, accepted⟩
    obtain rfl : other = row := by
      have stored := Table.mem_of_get? (Option.filter_eq_some_iff.mp foundOther).1
      rwa [rows, List.mem_singleton] at stored
    exact Bool.noConfusion (last.symm.trans (successor_of_resolve foundOther accepted))
  · rintro ⟨ids, after, resolves, resolved⟩
    exact open_ (resolved row.id row (resolves.kept found last))

end Example

end IssueFlow
