import IssueFlow.System.Cycles

/-!
# Escalation over many cycles

An overdue ticket climbs the ladder by one rung in each cycle, and in the cycle
after it has reached the top it is flagged. What `n` cycles do to it is
therefore a closed form in its first rung and flag, and after four cycles
nothing is left to do. This is so as long as the versions last: a cycle stops
at the first ticket it cannot raise.

## Main definitions

* `cycles` — cycles with time in between
* `NoDuePasses` — no due date is passed on the way
* `Climbed`, `climbEntries` — an overdue ticket after `n` cycles, and the entries about it
* `writesOver` — how often the cycles write a ticket
* `VersionsSuffice`, `ClosedForm` — when the versions last, and what holds then

## Main results

* `escalation_closed_form` — cycles have the closed form iff the versions last
* `last_version_stops_cycle` — a ticket that cannot be raised
-/

namespace IssueFlow

open Store Semantics JavaScript EscalationService

/-! ### The ladder -/

/-- The rung of a priority, from 0 to 3. -/
def rung (priority : TicketPriority) : ℕ := PRIORITY_LADDER.idxOf priority

/-- The priority of a rung. -/
def ladder (rung : ℕ) : TicketPriority := PRIORITY_LADDER.getD rung .critical

theorem rung_le_three (priority : TicketPriority) : rung priority ≤ 3 := by
  cases priority <;> decide

theorem rung_lt_three {priority : TicketPriority} (below : priority ≠ .critical) :
    rung priority < 3 := by
  cases priority <;> first | contradiction | decide

@[simp] theorem rung_critical : rung .critical = 3 := by decide

@[simp] theorem ladder_rung (priority : TicketPriority) : ladder (rung priority) = priority := by
  cases priority <;> decide

@[simp] theorem rung_nextPriority {priority : TicketPriority} (below : priority ≠ .critical) :
    rung (nextPriority priority) = rung priority + 1 := by
  cases priority <;> first | contradiction | decide

/-! ### One ticket over many cycles -/

/-- A ticket after cycles with time in between. -/
def cycledRows (now : Timestamp) : List ℕ → TicketRow → TicketRow
  | [], row => row
  | elapsed :: later, row => cycledRows (now + elapsed) later (cycledRow (now + elapsed) row)

/-- The due date of the ticket is not passed within some time. -/
def DueStill (now : Timestamp) (elapsed : ℕ) (row : TicketRow) : Prop :=
  ∀ due ∈ row.dueDate, due < now + elapsed → due < now

/-- The columns that a cycle may write. -/
def SameButEscalated (before after : TicketRow) : Prop :=
  ∃ priority isOverdue version updatedAt, after = { before with
    priority := priority, isOverdue := isOverdue, version := version, updatedAt := updatedAt }

section Row

variable {now : Timestamp} {elapsed : ℕ} {row row' : TicketRow}

theorem SameButEscalated.refl (row : TicketRow) : SameButEscalated row row := ⟨_, _, _, _, rfl⟩

theorem SameButEscalated.trans {first second third : TicketRow}
    (earlier : SameButEscalated first second) (later : SameButEscalated second third) :
    SameButEscalated first third := by
  obtain ⟨_, _, _, _, rfl⟩ := earlier
  obtain ⟨_, _, _, _, rfl⟩ := later
  exact ⟨_, _, _, _, rfl⟩

theorem sameButEscalated_decidedRow (now : Timestamp) (row : TicketRow) :
    SameButEscalated row (decidedRow now row) := by
  unfold decidedRow
  cases decision row with
  | none => exact .refl row
  | some change => cases change <;> exact ⟨_, _, _, _, rfl⟩

theorem sameButEscalated_cycledRow (now : Timestamp) (row : TicketRow) :
    SameButEscalated row (cycledRow now row) := by
  unfold cycledRow
  split_ifs
  · exact sameButEscalated_decidedRow now row
  · exact .refl row

/-- Such a ticket is as overdue as before. -/
theorem SameButEscalated.isOverdueUnresolved (same : SameButEscalated row row') :
    TicketsRepository.isOverdueUnresolved now row' =
      TicketsRepository.isOverdueUnresolved now row := by
  obtain ⟨_, _, _, _, rfl⟩ := same
  rfl

theorem SameButEscalated.dueStill (same : SameButEscalated row row')
    (still : DueStill now elapsed row) : DueStill now elapsed row' := by
  obtain ⟨_, _, _, _, rfl⟩ := same
  exact still

/-- A shorter time does not pass the due date either, and nor does the rest. -/
theorem DueStill.split {first second : ℕ} (still : DueStill now (first + second) row) :
    DueStill now first row ∧ DueStill (now + first) second row := by
  constructor
  · intro due given past
    have longer : now + (first : ℤ) ≤ now + ((first + second : ℕ) : ℤ) := by
      gcongr
      exact Nat.le_add_right first second
    exact still due given (past.trans_le longer)
  · intro due given past
    rw [add_assoc, ← Nat.cast_add] at past
    exact (still due given past).trans_le (le_add_of_nonneg_right (Int.natCast_nonneg first))

/-- Within a time that does not pass its due date, a ticket stays as overdue. -/
theorem isOverdueUnresolved_of_still (still : DueStill now elapsed row) :
    TicketsRepository.isOverdueUnresolved (now + elapsed) row =
      TicketsRepository.isOverdueUnresolved now row := by
  unfold TicketsRepository.isOverdueUnresolved
  cases given : row.dueDate with
  | none => rfl
  | some due =>
      have same : due < now + elapsed ↔ due < now := by
        constructor
        · exact still due given
        · exact fun past => past.trans_le (le_add_of_nonneg_right (Int.natCast_nonneg elapsed))
      simp [same]

/-- An overdue ticket after `n` cycles, in terms of its first rung and flag. -/
structure Climbed (n : ℕ) (before after : TicketRow) : Prop where
  priority : after.priority = ladder (min 3 (rung before.priority + n))
  isOverdue : after.isOverdue = true ↔ before.isOverdue = true ∨ 4 - rung before.priority ≤ n
  rest : SameButEscalated before after

/-- One cycle on a ticket below the top. -/
theorem decidedRow_of_below (now : Timestamp) (below : row.priority ≠ .critical) :
    decidedRow now row = { row with
      priority := nextPriority row.priority, version := row.version + 1, updatedAt := now } := by
  have decided : decision row = some (.promote (nextPriority row.priority)) := by
    simp [decision, below]
  rw [decidedRow, decided]
  rfl

/-- One cycle on a ticket at the top without the flag. -/
theorem decidedRow_of_unmarked (now : Timestamp) (top : row.priority = .critical)
    (unmarked : row.isOverdue = false) :
    decidedRow now row = { row with
      isOverdue := true, version := row.version + 1, updatedAt := now } := by
  have decided : decision row = some .markOverdue := by
    simp [decision, top, unmarked]
  rw [decidedRow, decided]
  rfl

/-- At the top, with the flag, nothing is left to decide. -/
theorem decision_eq_none (top : row.priority = .critical) (marked : row.isOverdue = true) :
    decision row = none := by
  simp [decision, top, marked]

theorem Climbed.start (row : TicketRow) : Climbed 0 row row where
  priority := by rw [Nat.add_zero, min_eq_right (rung_le_three _), ladder_rung]
  isOverdue := by
    have bounded := rung_le_three row.priority
    exact ⟨.inl, fun marked => marked.resolve_right (by omega)⟩
  rest := .refl row

/-- The first of several cycles. -/
theorem Climbed.first {n : ℕ} (later : Climbed n (decidedRow now row) row') :
    Climbed (n + 1) row row' := by
  have rest := (sameButEscalated_decidedRow now row).trans later.rest
  have bounded := rung_le_three row.priority
  by_cases below : row.priority = .critical
  · have top : rung row.priority = 3 := by rw [below, rung_critical]
    by_cases marked : row.isOverdue = true
    · -- Nothing is decided, now or later.
      have idle : decidedRow now row = row := by
        rw [decidedRow, decision_eq_none below marked]
      rw [idle] at later
      refine ⟨?_, ?_, rest⟩
      · rw [later.priority, top, min_eq_left (by omega), min_eq_left (by omega)]
      · exact iff_of_true (later.isOverdue.mpr (.inl marked)) (.inl marked)
    · rw [decidedRow_of_unmarked now below (Bool.eq_false_of_not_eq_true marked)] at later
      refine ⟨?_, ?_, rest⟩
      · rw [later.priority, top, min_eq_left (by omega), min_eq_left (by omega)]
      · exact iff_of_true (later.isOverdue.mpr (.inl rfl)) (.inr (by omega))
  · -- The first cycle takes the next rung, and the later ones start from there.
    have belowTop := rung_lt_three below
    rw [decidedRow_of_below now below] at later
    refine ⟨?_, ?_, rest⟩
    · rw [later.priority]
      show ladder (min 3 (rung (nextPriority row.priority) + n)) = _
      rw [rung_nextPriority below]
      congr 2
      omega
    · rw [later.isOverdue]
      show row.isOverdue = true ∨ 4 - rung (nextPriority row.priority) ≤ n ↔ _
      rw [rung_nextPriority below]
      refine or_congr Iff.rfl ?_
      omega

/-- The first of several cycles finds an overdue ticket, which stays overdue. -/
theorem cycledRows_cons_of_overdue {first : ℕ} {later : List ℕ}
    (still : DueStill now (first :: later).sum row)
    (overdue : TicketsRepository.isOverdueUnresolved now row = true) :
    let next := decidedRow (now + first) row
    cycledRows now (first :: later) row = cycledRows (now + first) later next ∧
      DueStill (now + first) later.sum next ∧
      TicketsRepository.isOverdueUnresolved (now + first) next = true := by
  intro next
  rw [List.sum_cons] at still
  obtain ⟨here, onward⟩ := still.split
  have scanned : TicketsRepository.isOverdueUnresolved (now + first) row = true := by
    rw [isOverdueUnresolved_of_still here, overdue]
  -- A decision touches neither the date nor the status, so the scan finds it again.
  have same := sameButEscalated_decidedRow (now + first) row
  refine ⟨?_, same.dueStill onward, ?_⟩
  · rw [cycledRows, cycledRow, if_pos scanned]
  · rw [same.isOverdueUnresolved, scanned]

/-- **An overdue ticket over many cycles.** -/
theorem climbed_cycledRows {elapsed : List ℕ} (still : DueStill now elapsed.sum row)
    (overdue : TicketsRepository.isOverdueUnresolved now row = true) :
    Climbed elapsed.length row (cycledRows now elapsed row) := by
  induction elapsed generalizing now row with
  | nil => exact .start row
  | cons elapsed later ih =>
      obtain ⟨first, onward, scanned⟩ := cycledRows_cons_of_overdue still overdue
      rw [first]
      exact .first (ih onward scanned)

/-- **Any other ticket** is left alone. -/
theorem cycledRows_of_not_overdue {elapsed : List ℕ} (still : DueStill now elapsed.sum row)
    (other : TicketsRepository.isOverdueUnresolved now row = false) :
    cycledRows now elapsed row = row := by
  induction elapsed generalizing now with
  | nil => rfl
  | cons first later ih =>
      rw [List.sum_cons] at still
      obtain ⟨here, onward⟩ := still.split
      have unscanned : TicketsRepository.isOverdueUnresolved (now + first) row = false := by
        rw [isOverdueUnresolved_of_still here, other]
      rw [cycledRows, cycledRow, unscanned]
      exact ih onward unscanned

end Row

/-! ### The entries about one ticket -/

/-- An entry about a ticket that was escalated. -/
def escalatedEntry (id : ℕ) (metadata : Metadata) : AuditInsert where
  action := .priorityEscalated
  entityType := .ticket
  entityId := id
  performedBy := none
  actor := .system
  metadata := metadata

/-- The entry about the step from a rung to the next one. -/
def promotionEntry (id rung : ℕ) : AuditInsert :=
  escalatedEntry id
    [("priority", .change (.text (ladder rung).text) (.text (ladder (rung + 1)).text))]

/-- The entry about the flag. -/
def overdueEntry (id : ℕ) : AuditInsert :=
  escalatedEntry id [("isOverdue", .change (.bool false) (.bool true)),
    ("priority", .value (.text TicketPriority.critical.text))]

/-- The entries of `n` cycles about an overdue ticket: one for each rung it has
climbed, and one for the flag if that was set. -/
def climbEntries (row : TicketRow) (n : ℕ) : List AuditInsert :=
  (List.range (min 3 (rung row.priority + n) - rung row.priority)).map
      (fun k => promotionEntry row.id (rung row.priority + k)) ++
    if row.isOverdue = false ∧ 4 - rung row.priority ≤ n then [overdueEntry row.id] else []

section Entries

variable {now : Timestamp} {row : TicketRow}

theorem climbEntries_zero (row : TicketRow) : climbEntries row 0 = [] := by
  have bounded := rung_le_three row.priority
  rw [climbEntries, if_neg (by omega), Nat.add_zero, min_eq_right bounded, Nat.sub_self]
  rfl

/-- The entry of the first cycle, and those of the later ones. -/
theorem climbEntries_succ (now : Timestamp) (row : TicketRow) (n : ℕ) :
    climbEntries row (n + 1) = decidedEntry row ++ climbEntries (decidedRow now row) n := by
  by_cases below : row.priority = .critical
  · have top : rung row.priority = 3 := by rw [below, rung_critical]
    -- At the top a ticket is marked once, and then nothing is left to do.
    cases marked : row.isOverdue with
    | true =>
        have idle := decision_eq_none below marked
        have same : decidedRow now row = row := by rw [decidedRow, idle]
        rw [same, decidedEntry, idle]
        simp [climbEntries, top, marked]
    | false =>
        have decided : decidedEntry row = [overdueEntry row.id] := by
          simp [decidedEntry, decision, below, marked, overdueEntry, escalatedEntry,
            escalationEntry, escalationMetadata]
        rw [decided, decidedRow_of_unmarked now below marked]
        simp [climbEntries, top, marked]
  · have belowTop := rung_lt_three below
    have decided : decidedEntry row = [promotionEntry row.id (rung row.priority)] := by
      have next : ladder (rung row.priority + 1) = nextPriority row.priority := by
        rw [← rung_nextPriority below, ladder_rung]
      simp [decidedEntry, decision, below, promotionEntry, escalatedEntry, escalationEntry,
        escalationMetadata, next]
    -- The first step is split off, and the others start one rung higher.
    have steps : min 3 (rung row.priority + (n + 1)) - rung row.priority =
        (min 3 (rung row.priority + 1 + n) - (rung row.priority + 1)) + 1 := by omega
    rw [decided, decidedRow_of_below now below]
    simp only [climbEntries, rung_nextPriority below, steps, List.range_succ_eq_map, List.map_cons,
      List.map_map, Nat.add_zero, List.cons_append, List.nil_append]
    congr 2
    · refine List.map_congr_left fun k _ => ?_
      show promotionEntry row.id _ = promotionEntry row.id _
      congr 1
      omega
    · refine if_congr (and_congr Iff.rfl ?_) rfl rfl
      omega

/-- Cycles raise the version by the number of their entries. -/
theorem version_cycledRows {elapsed : List ℕ} (still : DueStill now elapsed.sum row)
    (overdue : TicketsRepository.isOverdueUnresolved now row = true) :
    (cycledRows now elapsed row).version =
      row.version + (climbEntries row elapsed.length).length := by
  induction elapsed generalizing now row with
  | nil => rw [List.length_nil, climbEntries_zero]; rfl
  | cons elapsed later ih =>
      obtain ⟨first, onward, scanned⟩ := cycledRows_cons_of_overdue still overdue
      rw [first, List.length_cons, climbEntries_succ (now + elapsed), List.length_append,
        ih onward scanned, version_decidedRow]
      omega

/-- The version of the ticket can be raised by each of the writes of `n` cycles. -/
def HasRoom (n : ℕ) (row : TicketRow) : Prop :=
  ∀ k < (climbEntries row n).length, versionOverflows (row.version + k) = false

instance (n : ℕ) (row : TicketRow) : Decidable (HasRoom n row) := by
  unfold HasRoom
  infer_instance

/-- The first write, and the later ones. -/
theorem hasRoom_succ (now : Timestamp) (row : TicketRow) (n : ℕ) :
    HasRoom (n + 1) row ↔ stopsAt row = false ∧ HasRoom n (decidedRow now row) := by
  unfold HasRoom stopsAt
  rw [climbEntries_succ now, List.length_append, version_decidedRow]
  generalize climbEntries (decidedRow now row) n = later
  unfold decidedEntry
  cases decision row with
  | none => simp
  | some change =>
      simp only [Option.map_some, Option.toList_some, List.length_singleton, Option.isSome_some,
        Bool.true_and]
      constructor
      · intro room
        refine ⟨room 0 (by omega), fun k within => ?_⟩
        rw [add_assoc]
        exact room (1 + k) (by omega)
      · rintro ⟨first, rest⟩ k within
        cases k with
        | zero => exact first
        | succ k =>
            rw [add_comm k 1, ← add_assoc]
            exact rest k (by omega)

end Entries

/-! ### Cycles -/

section Cycles

/-- Cycles, each after some time has passed. -/
def cycles (elapsed : List ℕ) : List Input :=
  elapsed.flatMap fun time => [.advance time, .request .escalate]

/-- No due date of a stored ticket is passed within some time. -/
def NoDuePasses (elapsed : ℕ) (db : Db) : Prop :=
  ∀ row ∈ db.tickets.rows, DueStill db.now elapsed row

instance (elapsed : ℕ) (db : Db) : Decidable (NoDuePasses elapsed db) := by
  unfold NoDuePasses DueStill
  infer_instance

variable [Postgres] {α : Type} {db : Db} {id : ℕ} {row : TicketRow}

/-- The version of a ticket counts the statements that write it. -/
theorem version_run (p : Service α) (stored : db.tickets.get? id = some row) :
    ∃ row', (p.run exec db).2.tickets.get? id = some row' ∧
      row'.version = row.version + (p.events exec db).countP (writesTicket id) := by
  induction p generalizing db row with
  | done result => exact ⟨row, stored, rfl⟩
  | call statement next ih =>
      obtain ⟨middle, storedMiddle, transition⟩ := ticket_transition statement stored
      obtain ⟨row', stored', raised⟩ := ih _ storedMiddle
      have own : row.id = id := Table.key_of_get? stored
      refine ⟨row', stored', ?_⟩
      rw [raised, transition.version, own, Program.events, List.countP_cons]
      omega

variable [Bcrypt] [Unicode]

/-- How often a request that is served alone writes a ticket. -/
def writesIn (id : ℕ) (request : Request) (db : Db) : ℕ :=
  ((request.program (walkFuel db)).events exec db).countP (writesTicket id)

/-- How often cycles write a ticket. -/
def writesOver (id : ℕ) : List ℕ → Db → ℕ
  | [], _ => 0
  | time :: later, db =>
      writesIn id .escalate (advance time db) +
        writesOver id later (serve .escalate (advance time db)).2

/-- A cycle in a state: it counts every scanned ticket once. -/
def Counts (db : Db) : Prop :=
  ∃ summary, (serve .escalate db).1 = .ok (.escalated summary) ∧
    summary.scanned = summary.promoted + summary.markedOverdue + summary.skipped

theorem serve_escalate_state (db : Db) : (serve .escalate db).2 = cycled db := by
  obtain ⟨result, served, -⟩ := serve_escalate db
  rw [served]

/-- A cycle that stops at no ticket counts those it has scanned, and no other
cycle does. -/
theorem counts_iff (db : Db) : Counts db ↔ stops db = false := by
  obtain ⟨result, served, outcome⟩ := serve_escalate db
  unfold Counts
  rw [served]
  cases stopped : stops db with
  | true =>
      rw [if_pos stopped] at outcome
      rw [outcome]
      refine iff_of_false ?_ (by simp)
      rintro ⟨summary, answered, -⟩
      cases answered
  | false =>
      rw [if_neg (Bool.eq_false_iff.mp stopped)] at outcome
      obtain ⟨summary, rfl, counted⟩ := outcome
      exact iff_of_true ⟨summary, rfl, counted⟩ rfl

theorem serveAll_cycles_cons (time : ℕ) (later : List ℕ) (db : Db) :
    serveAll (cycles (time :: later)) db =
      serveAll (cycles later) (cycled (advance time db)) := by
  rw [← serve_escalate_state]
  simp [cycles, serveAll, Input.apply]

theorem now_serveAll_cycles (elapsed : List ℕ) (db : Db) :
    (serveAll (cycles elapsed) db).now = db.now + elapsed.sum := by
  induction elapsed generalizing db with
  | nil => simp [cycles, serveAll]
  | cons time later ih =>
      rw [serveAll_cycles_cons, ih, now_cycled, List.sum_cons]
      simp [advance, add_assoc]

/-- No cycle stops. -/
def Onward : List ℕ → Db → Prop
  | [], _ => True
  | time :: later, db => stops (advance time db) = false ∧ Onward later (cycled (advance time db))

/-- **Cycles, ticket by ticket.** -/
theorem get?_serveAll_cycles {elapsed : List ℕ} (onward : Onward elapsed db) (id : ℕ) :
    (serveAll (cycles elapsed) db).tickets.get? id =
      (db.tickets.get? id).map (cycledRows db.now elapsed) := by
  induction elapsed generalizing db with
  | nil =>
      have same : cycledRows db.now [] = fun row => row := rfl
      rw [same, Option.map_id']
      rfl
  | cons time later ih =>
      obtain ⟨first, rest⟩ := onward
      rw [serveAll_cycles_cons, ih rest, get?_cycled_of_onward first, now_cycled, Option.map_map]
      rfl

omit [Postgres] [Bcrypt] [Unicode] in
/-- The tickets after a cycle that does not stop. -/
theorem mem_cycled_of_onward (onward : stops db = false) {row' : TicketRow} :
    row' ∈ (cycled db).tickets.rows ↔ ∃ row ∈ db.tickets.rows, cycledRow db.now row = row' := by
  constructor
  · intro member
    have found := Table.get?_key member
    rw [get?_cycled_of_onward onward] at found
    obtain ⟨row, stored, same⟩ := Option.map_eq_some_iff.mp found
    exact ⟨row, Table.mem_of_get? stored, same⟩
  · rintro ⟨row, member, rfl⟩
    have stored : db.tickets.get? row.id = some row := Table.get?_key member
    have found := get?_cycled_of_onward onward row.id
    rw [stored] at found
    exact Table.mem_of_get? found

omit [Postgres] [Bcrypt] [Unicode] in
/-- A cycle that does not stop moves no due date, so none is passed later either. -/
theorem noDuePasses_cycled {time : ℕ} {later : List ℕ}
    (still : NoDuePasses (time :: later).sum db) (onward : stops (advance time db) = false) :
    NoDuePasses later.sum (cycled (advance time db)) := by
  intro row' member
  obtain ⟨row, stored, rfl⟩ := (mem_cycled_of_onward onward).mp member
  have whole := still row stored
  rw [List.sum_cons] at whole
  rw [now_cycled]
  exact (sameButEscalated_cycledRow _ row).dueStill whole.split.2

/-- Cycles raise the version of a ticket by the number of their writes. -/
theorem version_serveAll_cycles (elapsed : List ℕ) (stored : db.tickets.get? id = some row) :
    ∃ row', (serveAll (cycles elapsed) db).tickets.get? id = some row' ∧
      row'.version = row.version + writesOver id elapsed db := by
  induction elapsed generalizing db row with
  | nil => exact ⟨row, stored, rfl⟩
  | cons time later ih =>
      have storedLater : (advance time db).tickets.get? id = some row := stored
      obtain ⟨middle, storedMiddle, raised⟩ :=
        version_run (Request.escalate.program (walkFuel db)) storedLater
      obtain ⟨row', stored', raised'⟩ := ih storedMiddle
      have served : ((Request.escalate.program (walkFuel db)).run exec (advance time db)).2 =
          cycled (advance time db) := serve_escalate_state (advance time db)
      rw [served] at stored' raised'
      refine ⟨row', by rw [serveAll_cycles_cons]; exact stored', ?_⟩
      rw [raised', raised, writesOver, serve_escalate_state, writesIn, add_assoc]
      rfl

/-- The entries of all cycles, ticket by ticket. -/
theorem appended_serveAll_cycles {elapsed : List ℕ} (still : NoDuePasses elapsed.sum db)
    (onward : Onward elapsed db) :
    ∃ entries, Appended entries db (serveAll (cycles elapsed) db) ∧
      ∀ id, (entries.filter fun entry => entry.entityId = id) =
        ((db.tickets.get? id).filter (TicketsRepository.isOverdueUnresolved db.now)).elim []
          (climbEntries · elapsed.length) := by
  induction elapsed generalizing db with
  | nil =>
      refine ⟨[], .of_rows_eq rfl, fun id => ?_⟩
      rw [List.length_nil]
      cases (db.tickets.get? id).filter (TicketsRepository.isOverdueUnresolved db.now) with
      | none => rfl
      | some row => exact (climbEntries_zero row).symm
  | cons time later ih =>
      obtain ⟨goesOn, rest⟩ := onward
      obtain ⟨entries, appended, about⟩ := ih (noDuePasses_cycled still goesOn) rest
      rw [List.sum_cons] at still
      refine ⟨cycleEntries (advance time db) ++ entries, ?_, fun id => ?_⟩
      · rw [serveAll_cycles_cons]
        have first : Appended (cycleEntries (advance time db)) db (cycled (advance time db)) :=
          appended_cycled (advance time db)
        exact first.trans appended
      · rw [List.filter_append, filter_cycleEntries_of_onward goesOn, about,
          get?_cycled_of_onward goesOn, now_cycled]
        show ((db.tickets.get? id).filter _).elim [] decidedEntry ++ _ = _
        cases stored : db.tickets.get? id with
        | none =>
            have absent : (advance time db).tickets.get? id = none := stored
            rw [absent]
            rfl
        | some row =>
            have present : (advance time db).tickets.get? id = some row := stored
            have here := (still row (Table.mem_of_get? stored)).split.1
            have scanned : TicketsRepository.isOverdueUnresolved (advance time db).now row =
                TicketsRepository.isOverdueUnresolved db.now row :=
              isOverdueUnresolved_of_still here
            rw [present, Option.map_some, Option.filter_some, Option.filter_some,
              Option.filter_some, scanned, cycledRow, scanned]
            -- The ticket is scanned by all of the cycles or by none.
            cases overdue : TicketsRepository.isOverdueUnresolved db.now row with
            | false => simp [scanned, overdue]
            | true =>
                have same := sameButEscalated_decidedRow (advance time db).now row
                simp only [if_true, same.isOverdueUnresolved, scanned, overdue, Option.elim_some,
                  List.length_cons]
                exact (climbEntries_succ _ row later.length).symm

/-- What cycles have done to an overdue ticket: it has climbed, its version
counts the writes it has received, and there is one entry for each of them. -/
structure EscalatedOver (id : ℕ) (elapsed : List ℕ) (db : Db) (entries : List AuditInsert)
    (before after : TicketRow) : Prop where
  climbed : Climbed elapsed.length before after
  version : after.version = before.version + writesOver id elapsed db
  entries : (entries.filter fun entry => entry.entityId = id) = climbEntries before elapsed.length
  one_each : (climbEntries before elapsed.length).length = writesOver id elapsed db

/-- What cycles have done to any other ticket: nothing. -/
structure LeftAlone (id : ℕ) (elapsed : List ℕ) (db : Db) (entries : List AuditInsert)
    (before after : TicketRow) : Prop where
  same : after = before
  writes : writesOver id elapsed db = 0
  entries : (entries.filter fun entry => entry.entityId = id) = []

/-- Cycles on a stored ticket. -/
theorem stored_after_cycles {elapsed : List ℕ} {entries : List AuditInsert}
    (still : NoDuePasses elapsed.sum db) (onward : Onward elapsed db)
    (about : (entries.filter fun entry => entry.entityId = id) =
      ((db.tickets.get? id).filter (TicketsRepository.isOverdueUnresolved db.now)).elim []
        (climbEntries · elapsed.length))
    (stored : db.tickets.get? id = some row) :
    ∃ row', (serveAll (cycles elapsed) db).tickets.get? id = some row' ∧
      if TicketsRepository.isOverdueUnresolved db.now row then
        EscalatedOver id elapsed db entries row row'
      else LeftAlone id elapsed db entries row row' := by
  have here : DueStill db.now elapsed.sum row := still row (Table.mem_of_get? stored)
  have found := get?_serveAll_cycles onward id
  obtain ⟨row', stored', raised⟩ := version_serveAll_cycles elapsed stored
  rw [stored, Option.map_some] at found
  obtain rfl : row' = cycledRows db.now elapsed row :=
    Option.some.inj (stored'.symm.trans found)
  rw [stored, Option.filter_some] at about
  refine ⟨_, stored', ?_⟩
  -- The version tells how many entries there are.
  split_ifs with overdue
  · rw [if_pos overdue] at about
    have counted := version_cycledRows here overdue
    exact ⟨climbed_cycledRows here overdue, raised, about, by omega⟩
  · have other := Bool.eq_false_of_not_eq_true overdue
    have same := cycledRows_of_not_overdue here other
    rw [if_neg overdue] at about
    rw [same] at raised
    exact ⟨same, by omega, about⟩

/-- After four cycles nothing is left to decide. -/
theorem idle_after_four {elapsed : List ℕ} {time : ℕ}
    (still : NoDuePasses (elapsed.sum + time) db) (onward : Onward elapsed db)
    (four : 4 ≤ elapsed.length) :
    (serve .escalate (advance time (serveAll (cycles elapsed) db))).2 =
      advance time (serveAll (cycles elapsed) db) := by
  rw [serve_escalate_state]
  apply cycled_of_idle
  intro ticket member
  obtain ⟨stored, overdue⟩ := List.mem_filter.mp member
  have found := Table.get?_key stored
  change (serveAll (cycles elapsed) db).tickets.get? ticket.id = some ticket at found
  rw [get?_serveAll_cycles onward] at found
  obtain ⟨row, storedRow, rfl⟩ := Option.map_eq_some_iff.mp found
  have here := still row (Table.mem_of_get? storedRow)
  have now : (advance time (serveAll (cycles elapsed) db)).now =
      db.now + ((elapsed.sum + time : ℕ) : ℤ) := by
    show (serveAll (cycles elapsed) db).now + (time : ℤ) = _
    rw [now_serveAll_cycles, Nat.cast_add, add_assoc]
  -- The ticket is overdue now, so it was overdue before the first cycle.
  have before : TicketsRepository.isOverdueUnresolved db.now row = true := by
    by_contra other
    have other := Bool.eq_false_of_not_eq_true other
    have same := cycledRows_of_not_overdue here.split.1 other
    rw [same, now, isOverdueUnresolved_of_still here, other] at overdue
    cases overdue
  obtain ⟨priority, marked, -⟩ := climbed_cycledRows here.split.1 before
  have bounded := rung_le_three row.priority
  apply decision_eq_none
  · rw [priority, min_eq_left (by omega)]
    rfl
  · exact marked.mpr (.inr (by omega))

/-- Escalation in closed form: every overdue ticket climbs one rung a cycle and
is then flagged, with one entry for each write, and nothing happens to any other
ticket. Every cycle counts each scanned ticket once, and from the fifth on a
cycle writes nothing. -/
structure ClosedForm (elapsed : List ℕ) (db : Db) : Prop where
  tickets : ∃ entries, Appended entries db (serveAll (cycles elapsed) db) ∧
    (∀ id, db.tickets.get? id = none → (serveAll (cycles elapsed) db).tickets.get? id = none) ∧
    ∀ id row, db.tickets.get? id = some row →
      ∃ row', (serveAll (cycles elapsed) db).tickets.get? id = some row' ∧
        if TicketsRepository.isOverdueUnresolved db.now row then
          EscalatedOver id elapsed db entries row row'
        else LeftAlone id elapsed db entries row row'
  counts : ∀ earlier time later, elapsed = earlier ++ time :: later →
    Counts (advance time (serveAll (cycles earlier) db))
  idle : ∀ earlier time later, elapsed = earlier ++ time :: later → 4 ≤ earlier.length →
    (serve .escalate (advance time (serveAll (cycles earlier) db))).2 =
      advance time (serveAll (cycles earlier) db)

/-- The versions of the overdue tickets last for the writes of `n` cycles. -/
def VersionsSuffice (n : ℕ) (db : Db) : Prop :=
  ∀ row ∈ TicketsRepository.findOverdueUnresolved db, HasRoom n row

instance (n : ℕ) (db : Db) : Decidable (VersionsSuffice n db) := by
  unfold VersionsSuffice
  infer_instance

omit [Postgres] [Bcrypt] [Unicode] in
/-- The first cycle does not stop, and the versions last for the later ones. -/
theorem versionsSuffice_cons {time : ℕ} {later : List ℕ}
    (still : NoDuePasses (time :: later).sum db) :
    VersionsSuffice (later.length + 1) db ↔ stops (advance time db) = false ∧
      VersionsSuffice later.length (cycled (advance time db)) := by
  -- The first cycle scans what is overdue now.
  have scan (row : TicketRow) (member : row ∈ db.tickets.rows) :
      TicketsRepository.isOverdueUnresolved (db.now + time) row =
        TicketsRepository.isOverdueUnresolved db.now row := by
    have whole := still row member
    rw [List.sum_cons] at whole
    exact isOverdueUnresolved_of_still whole.split.1
  have scanned : TicketsRepository.findOverdueUnresolved (advance time db) =
      TicketsRepository.findOverdueUnresolved db := List.filter_congr scan
  have room : VersionsSuffice (later.length + 1) db ↔ stops (advance time db) = false ∧
      ∀ row ∈ TicketsRepository.findOverdueUnresolved db,
        HasRoom later.length (decidedRow (db.now + time) row) := by
    unfold VersionsSuffice stops
    simp only [hasRoom_succ (db.now + time), scanned, List.any_eq_false, Bool.not_eq_true,
      forall_and]
  rw [room, ← scanned]
  refine and_congr_right fun onward => ?_
  -- A scanned ticket is as overdue after the cycle as it was.
  constructor
  · intro suffice row' member
    obtain ⟨row, stored, rfl⟩ := (mem_cycled_of_onward onward).mp (List.mem_filter.mp member).1
    have overdue := (List.mem_filter.mp member).2
    rw [now_cycled, (sameButEscalated_cycledRow _ row).isOverdueUnresolved] at overdue
    rw [cycledRow, if_pos overdue]
    exact suffice row (List.mem_filter.mpr ⟨stored, overdue⟩)
  · intro suffice row member
    obtain ⟨stored, overdue⟩ := List.mem_filter.mp member
    have decided : cycledRow (db.now + time) row = decidedRow (db.now + time) row :=
      if_pos overdue
    rw [← decided]
    have cycled := (mem_cycled_of_onward onward).mpr ⟨row, stored, rfl⟩
    refine suffice _ (List.mem_filter.mpr ⟨cycled, ?_⟩)
    rw [now_cycled]
    exact (sameButEscalated_cycledRow _ row).isOverdueUnresolved.trans overdue

omit [Postgres] [Bcrypt] [Unicode] in
/-- **No cycle stops** iff the versions last. -/
theorem onward_iff {elapsed : List ℕ} (still : NoDuePasses elapsed.sum db) :
    Onward elapsed db ↔ VersionsSuffice elapsed.length db := by
  induction elapsed generalizing db with
  | nil =>
      refine iff_of_true trivial fun row _ k within => ?_
      rw [List.length_nil, climbEntries_zero] at within
      cases within
  | cons time later ih =>
      rw [List.length_cons, versionsSuffice_cons still]
      exact and_congr_right fun onward => ih (noDuePasses_cycled still onward)

/-- Cycles that all count their tickets have not stopped. -/
theorem onward_of_counts {elapsed : List ℕ}
    (counts : ∀ earlier time later, elapsed = earlier ++ time :: later →
      Counts (advance time (serveAll (cycles earlier) db))) : Onward elapsed db := by
  induction elapsed generalizing db with
  | nil => trivial
  | cons time later ih =>
      refine ⟨(counts_iff _).mp (counts [] time later rfl), ih fun earlier next rest same => ?_⟩
      rw [← serveAll_cycles_cons]
      exact counts (time :: earlier) next rest (congrArg (time :: ·) same)

/-- Every cycle of a run without a stop is reached without one. -/
theorem Onward.split {earlier later : List ℕ} (onward : Onward (earlier ++ later) db) :
    Onward earlier db ∧ Onward later (serveAll (cycles earlier) db) := by
  induction earlier generalizing db with
  | nil => exact ⟨trivial, onward⟩
  | cons time earlier ih =>
      obtain ⟨first, rest⟩ := ih onward.2
      rw [serveAll_cycles_cons]
      exact ⟨⟨onward.1, first⟩, rest⟩

/-- **Escalation in closed form.** Cycles between which no due date is passed
have the closed form if and only if the versions of the overdue tickets last
for the writes that are due to them. -/
theorem escalation_closed_form (db : Db) (elapsed : List ℕ)
    (still : NoDuePasses elapsed.sum db) :
    ClosedForm elapsed db ↔ VersionsSuffice elapsed.length db := by
  rw [← onward_iff still]
  constructor
  · intro closed
    exact onward_of_counts closed.counts
  · intro onward
    refine ⟨?_, ?_, ?_⟩
    · obtain ⟨entries, appended, about⟩ := appended_serveAll_cycles still onward
      refine ⟨entries, appended, fun id absent => ?_, fun id row stored => ?_⟩
      · rw [get?_serveAll_cycles onward, absent]
        rfl
      · exact stored_after_cycles still onward (about id) stored
    · rintro earlier time later rfl
      exact (counts_iff _).mpr onward.split.2.1
    · -- After four cycles every ticket that was overdue is at the top and flagged.
      rintro earlier time later rfl four
      refine idle_after_four (fun row member => ?_) onward.split.1 four
      have whole := still row member
      rw [List.sum_append, List.sum_cons, ← add_assoc] at whole
      exact whole.split.1

end Cycles

/-! ### A ticket that climbs to the top -/

section Example

open Sample

/-- A ticket with priority MEDIUM, one second overdue. -/
def lateTicket : Db :=
  serveAll (setup ++ [.request (.createTicket ⟨"Ticket", .undefined, .undefined, .undefined, .bug,
    1, .undefined, .value "1970-01-01T00:00:01Z"⟩ 1), .advance 2000]) Db.empty

/-- The ticket as it is stored, with some version. -/
def lateRow (version : ℕ) : TicketRow :=
  ⟨1, "Ticket", none, .todo, .medium, .bug, 1, none, some 1000, false, version, none, 0, 0⟩

/-- Three cycles take it to the top and flag it; its due date was passed before. -/
theorem escalation_closed_form_lateTicket :
    NoDuePasses [0, 500, 500].sum lateTicket ∧ VersionsSuffice 3 lateTicket ∧
      ∃ entries, Appended entries lateTicket (serveAll (cycles [0, 500, 500]) lateTicket) ∧
        ∃ row', (serveAll (cycles [0, 500, 500]) lateTicket).tickets.get? 1 = some row' ∧
          EscalatedOver 1 [0, 500, 500] lateTicket entries (lateRow 1) row' := by
  have still : NoDuePasses [0, 500, 500].sum lateTicket := by decide +kernel
  have suffice : VersionsSuffice 3 lateTicket := by decide +kernel
  obtain ⟨entries, appended, -, about⟩ :=
    ((escalation_closed_form lateTicket [0, 500, 500] still).mpr suffice).tickets
  have stored : lateTicket.tickets.get? 1 = some (lateRow 1) := by decide +kernel
  obtain ⟨row', found, done⟩ := about 1 _ stored
  rw [if_pos (by decide +kernel)] at done
  exact ⟨still, suffice, entries, appended, row', found, done⟩

/-- The ticket has the last version an INTEGER can hold. -/
def lastVersionTicket : Db :=
  { lateTicket with tickets := lateTicket.tickets.set (lateRow MAX_INTEGER) }

/-- **Not every ticket table has the closed form**: a ticket that cannot be raised
stops the cycle, which reports an error instead of its counts. -/
theorem last_version_stops_cycle :
    ¬ ∀ (db : Db) (elapsed : List ℕ), NoDuePasses elapsed.sum db → ClosedForm elapsed db := by
  intro all
  have closed := all lastVersionTicket [0] (by decide +kernel)
  have onward := (counts_iff _).mp (closed.counts [] 0 [] rfl)
  have stops : EscalationService.stops (advance 0 lastVersionTicket) = true := by decide +kernel
  exact Bool.noConfusion (stops.symm.trans onward)

end Example

end IssueFlow
