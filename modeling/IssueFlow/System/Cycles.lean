import IssueFlow.System.TicketEffects

/-!
# The entries of an escalation cycle

A cycle logs one entry for each ticket it writes, in the order of the writes.
One that stops at a ticket whose version cannot be raised has logged the
tickets before it, as a cycle over these alone would have.

## Main definitions

* `decidedEntry`, `cycleEntries` — the entry about a ticket, and those of a cycle

## Main results

* `appended_cycled` — a cycle appends its entries
* `filter_cycleEntries` — the entries, ticket by ticket
* `keys_cycleEntries` — they name the tickets that the cycle has written
* `serve_escalate` — a cycle that is served alone
-/

namespace IssueFlow

open Store Semantics JavaScript EscalationService

/-- The entry of a cycle about a ticket, if it writes it. -/
def decidedEntry (row : TicketRow) : List AuditInsert :=
  ((decision row).map (escalationEntry row)).toList

/-- The entries of a cycle. -/
def cycleEntries (db : Db) : List AuditInsert := (reached db).flatMap decidedEntry

variable {db : Db} {id : ℕ} {row : TicketRow}

/-! ### What a cycle appends -/

theorem appended_escalated (db : Db) (ticket : TicketRow) :
    Appended (decidedEntry ticket) db (escalated db ticket) := by
  unfold decidedEntry escalated
  cases decision ticket with
  | none => exact .of_rows_eq rfl
  | some change =>
      have stored : Appended [] db { db with
          tickets := db.tickets.set
            { TicketsRepository.escalatedRow change ticket with updatedAt := db.now } } :=
        .of_rows_eq rfl
      exact stored.trans (.log _ (escalationEntry ticket change))

/-- **A cycle appends its entries**, also one that stops. -/
theorem appended_cycled (db : Db) : Appended (cycleEntries db) db (cycled db) := by
  unfold cycleEntries cycled
  generalize reached db = tickets
  induction tickets generalizing db with
  | nil => exact .of_rows_eq rfl
  | cons ticket tickets ih =>
      rw [List.flatMap_cons, List.foldl_cons]
      exact (appended_escalated db ticket).trans (ih (escalated db ticket))

/-! ### The entries, ticket by ticket -/

theorem entityId_decidedEntry {entry : AuditInsert} (member : entry ∈ decidedEntry row) :
    entry.entityId = row.id := by
  unfold decidedEntry at member
  rw [Option.mem_toList] at member
  obtain ⟨change, -, rfl⟩ := Option.map_eq_some_iff.mp member
  rfl

/-- The entries about one ticket come from that ticket. -/
theorem filter_flatMap_decidedEntry (rows : List TicketRow) :
    ((rows.flatMap decidedEntry).filter fun entry => entry.entityId = id) =
      (rows.filter fun row => row.id = id).flatMap decidedEntry := by
  induction rows with
  | nil => rfl
  | cons row rows ih =>
      rw [List.flatMap_cons, List.filter_append, ih, List.filter_cons]
      by_cases same : row.id = id
      · have all : (decidedEntry row).filter (fun entry => entry.entityId = id) =
            decidedEntry row := by
          rw [List.filter_eq_self]
          intro entry member
          exact decide_eq_true ((entityId_decidedEntry member).trans same)
        rw [all, if_pos (decide_eq_true same), List.flatMap_cons]
      · have none : (decidedEntry row).filter (fun entry => entry.entityId = id) = [] := by
          rw [List.filter_eq_nil_iff]
          intro entry member
          rw [entityId_decidedEntry member]
          simpa using same
        rw [none, List.nil_append, if_neg (by simpa using same)]

/-- A cycle gets to a stored ticket once, if at all. -/
theorem filter_reached (db : Db) (id : ℕ) :
    ((reached db).filter fun row => row.id = id) =
      ((db.tickets.get? id).filter (· ∈ reached db)).toList := by
  -- What it gets to was scanned, so it is stored under its id.
  have stored {row : TicketRow} (member : row ∈ reached db) :
      db.tickets.get? row.id = some row :=
    Table.get?_key (List.mem_filter.mp (scanned_of_reached member)).1
  cases found : (db.tickets.get? id).filter (· ∈ reached db) with
  | none =>
      rw [Option.toList_none, List.filter_eq_nil_iff]
      intro row member same
      have here : db.tickets.get? id = some row := of_decide_eq_true same ▸ stored member
      simp [here, member] at found
  | some row =>
      obtain ⟨here, member⟩ := Option.filter_eq_some_iff.mp found
      have member := of_decide_eq_true member
      obtain rfl : row.id = id := Table.key_of_get? here
      have distinct : ((reached db).map (·.id)).Nodup :=
        (nodup_scanned db).sublist ((List.takeWhile_sublist _).map _)
      exact filter_key_of_nodup distinct member

/-- **The entries of a cycle, ticket by ticket.** -/
theorem filter_cycleEntries (db : Db) (id : ℕ) :
    ((cycleEntries db).filter fun entry => entry.entityId = id) =
      ((db.tickets.get? id).filter (· ∈ reached db)).elim [] decidedEntry := by
  rw [cycleEntries, filter_flatMap_decidedEntry, filter_reached]
  cases (db.tickets.get? id).filter (· ∈ reached db) with
  | none => rfl
  | some row => exact List.flatMap_singleton _ _

/-- The entries of a cycle that stops at no ticket. -/
theorem filter_cycleEntries_of_onward (onward : stops db = false) (id : ℕ) :
    ((cycleEntries db).filter fun entry => entry.entityId = id) =
      ((db.tickets.get? id).filter (TicketsRepository.isOverdueUnresolved db.now)).elim []
        decidedEntry := by
  rw [filter_cycleEntries, reached_of_onward onward]
  cases found : db.tickets.get? id with
  | none => rfl
  | some row =>
      have scanned : row ∈ TicketsRepository.findOverdueUnresolved db ↔
          TicketsRepository.isOverdueUnresolved db.now row = true := by
        rw [TicketsRepository.findOverdueUnresolved, List.mem_filter]
        exact and_iff_right (Table.mem_of_get? found)
      simp only [Option.filter_some, scanned, Bool.decide_eq_true]

/-! ### The tickets that are written -/

/-- A decision raises the version of its ticket. -/
theorem version_decidedRow (now : Timestamp) (row : TicketRow) :
    (decidedRow now row).version = row.version + (decidedEntry row).length := by
  unfold decidedRow decidedEntry
  cases decision row with
  | none => rfl
  | some change => cases change <;> rfl

/-- A decision is seen on its ticket: nothing was decided, or the version goes up. -/
theorem decidedRow_eq_self_iff (now : Timestamp) (row : TicketRow) :
    decidedRow now row = row ↔ (decision row).isSome = false := by
  constructor
  · intro same
    have raised := version_decidedRow now row
    rw [same, decidedEntry] at raised
    cases decided : decision row with
    | none => rfl
    | some change =>
        rw [decided] at raised
        simp at raised
  · intro undecided
    rw [decidedRow, Option.not_isSome_iff_eq_none.mp (Bool.eq_false_iff.mp undecided)]

/-- The entries of a cycle name the tickets that it decides. -/
theorem map_key_flatMap_decidedEntry (rows : List TicketRow) :
    (rows.flatMap decidedEntry).map AuditInsert.key =
      (rows.filter fun row => (decision row).isSome).map fun row =>
        ⟨.priorityEscalated, .ticket, row.id, none, .system⟩ := by
  induction rows with
  | nil => rfl
  | cons row rows ih =>
      rw [List.flatMap_cons, List.map_append, ih, List.filter_cons, decidedEntry]
      cases decision row with
      | none => rfl
      | some change => rfl

/-- The tickets a cycle has written. -/
theorem filter_written (db : Db) :
    (db.tickets.rows.filter fun row => (cycled db).tickets.get? row.id ≠ some row) =
      (reached db).filter fun row => (decision row).isSome := by
  have within : (reached db).Sublist db.tickets.rows :=
    (List.takeWhile_sublist _).trans List.filter_sublist
  -- Among the stored tickets those it gets to are picked, and of these those it decides.
  rw [← filter_mem_of_sublist within (List.Nodup.of_map _ db.tickets.nodup_keys),
    List.filter_filter]
  refine List.filter_congr fun row member => ?_
  have stored : db.tickets.get? row.id = some row := Table.get?_key member
  rw [get?_cycled, stored, Option.map_some]
  by_cases gotTo : row ∈ reached db
  · rw [if_pos gotTo]
    simp only [ne_eq, Option.some.injEq, decidedRow_eq_self_iff, gotTo, decide_true, Bool.and_true]
    cases (decision row).isSome <;> rfl
  · simp [gotTo]

/-- **The entries of a cycle** name the tickets that it has written. -/
theorem keys_cycleEntries (db : Db) :
    (cycleEntries db).map AuditInsert.key = (db.writtenTickets (cycled db)).map fun id =>
      ⟨.priorityEscalated, .ticket, id, none, .system⟩ := by
  rw [cycleEntries, map_key_flatMap_decidedEntry, Db.writtenTickets, filter_written, List.map_map]
  rfl

/-! ### The clock, and a cycle with nothing to do -/

theorem now_cycled (db : Db) : (cycled db).now = db.now := by
  unfold cycled
  generalize reached db = tickets
  induction tickets generalizing db with
  | nil => rfl
  | cons ticket tickets ih => rw [List.foldl_cons, ih, now_escalated]

/-- A cycle that has nothing to decide changes nothing. -/
theorem cycled_of_idle
    (idle : ∀ ticket ∈ TicketsRepository.findOverdueUnresolved db, decision ticket = none) :
    cycled db = db := by
  have nothing : ∀ ticket ∈ reached db, decision ticket = none :=
    fun ticket member => idle ticket (scanned_of_reached member)
  unfold cycled
  generalize reached db = tickets at nothing
  induction tickets with
  | nil => rfl
  | cons ticket tickets ih =>
      have here : escalated db ticket = db := by
        rw [escalated, nothing ticket List.mem_cons_self]
      rw [List.foldl_cons, here]
      exact ih fun other member => nothing other (List.mem_cons_of_mem _ member)

/-! ### Cycles that are served alone -/

variable [Postgres] [Bcrypt] [Unicode]

/-- **A cycle, served alone**, counts the tickets it has scanned or stops. -/
theorem serve_escalate (db : Db) :
    ∃ result : Except Exception EscalationSummary,
      serve .escalate db = (result.map .escalated, cycled db) ∧
      if stops db then result = .error (.database .numericValueOutOfRange)
      else ∃ summary, result = .ok summary ∧ summary.scanned = summary.handled := by
  obtain ⟨result, run, outcome⟩ := runOnce_run db
  refine ⟨result, ?_, outcome⟩
  rw [serve, Request.program, Program.run_map, run]

theorem serve_escalate_of_stops (stopped : stops db = true) :
    serve .escalate db = (.error (.database .numericValueOutOfRange), cycled db) := by
  obtain ⟨result, served, outcome⟩ := serve_escalate db
  rw [if_pos stopped] at outcome
  rw [served, outcome]
  rfl

end IssueFlow
