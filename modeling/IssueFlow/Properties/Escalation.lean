import IssueFlow.System.Outlines

/-!
# Escalation under concurrency

A cycle decides from its scan and writes later, guarded only by the status and
the deletion mark. A PATCH or another cycle in between is overwritten. When
nothing has changed the decision about a ticket since the scan, the write is
the right one for the row it finds, and so is the entry about it.

## Main definitions

* `AppliedRight`, `AuditedRight` — a write and an entry that are right
* `DecisionKept` — nothing since the scan has changed what the cycle decides

## Main results

* `escalation_right` — schedules that keep the decisions apply and log them right
* `escalation_lowers_priority` — a schedule in which a cycle lowers a priority
-/

namespace IssueFlow

open Store Semantics JavaScript EscalationService

/-! ### Right writes and entries -/

/-- A write that takes the row one step: to the next rung of the ladder, or to
the overdue flag at the top. -/
def IsNextStep (row : TicketRow) : EscalationChange → Prop
  | .promote newPriority =>
      PRIORITY_LADDER.idxOf newPriority = PRIORITY_LADDER.idxOf row.priority + 1
  | .markOverdue => row.priority = .critical

instance (row : TicketRow) (change : EscalationChange) : Decidable (IsNextStep row change) := by
  unfold IsNextStep
  split <;> infer_instance

/-- A change in the metadata starts from the value the row has. -/
def StartsFrom (row : TicketRow) : String × MetadataField → Prop
  | (name, .change before _) =>
      (name, before) = ("priority", .text row.priority.text) ∨
        (name, before) = ("isOverdue", .bool row.isOverdue)
  | (_, .value _) => True

instance (row : TicketRow) (entry : String × MetadataField) : Decidable (StartsFrom row entry) := by
  unfold StartsFrom
  split <;> infer_instance

section Right

variable [Postgres]

/-- An escalation write that takes effect finds a live, unresolved, overdue
ticket, and takes it one step. -/
def AppliedRight (event : Event Statement Db) : Prop :=
  match event.op with
  | .command (.applyEscalation id change) =>
      writesTicket id event → ∃ row ∈ event.state.tickets.get? id,
        TicketsRepository.isOverdueUnresolved event.state.now row ∧ IsNextStep row change
  | _ => True

/-- The entry is about this write: of this ticket, and from the values the
write has replaced. -/
def IsAbout (input : AuditInsert) (event : Event Statement Db) : Prop :=
  match event.op with
  | .command (.applyEscalation id _) =>
      writesTicket id event ∧ input.entityId = id ∧
        ∃ row ∈ event.state.tickets.get? id, ∀ entry ∈ input.metadata, StartsFrom row entry
  | _ => False

/-- Every escalation entry is about a write of the cycle that logs it. -/
def AuditedRight (history : History) (event : Event Statement Db) : Prop :=
  match event.op with
  | .command (.insertAudit input) =>
      input.action = .priorityEscalated → ∃ write ∈ history, IsAbout input write
  | _ => True

instance (event : Event Statement Db) : Decidable (AppliedRight event) := by
  obtain ⟨read | write, db⟩ := event
  · exact .isTrue trivial
  · cases write with
    | applyEscalation id change =>
        exact inferInstanceAs (Decidable (writesTicket id _ → ∃ row ∈ db.tickets.get? id,
          TicketsRepository.isOverdueUnresolved db.now row ∧ IsNextStep row change))
    | _ => exact .isTrue trivial

/-! ### Decisions that are kept -/

/-- The ticket is decided as before, and if it was overdue it still is. -/
def KeepsDecision (id : ℕ) (before after : Db) : Prop :=
  ∀ row ∈ before.tickets.get? id, ∃ row' ∈ after.tickets.get? id,
    decision row' = decision row ∧
      (row.dueDate.any (· < before.now) → row'.dueDate.any (· < after.now))

instance (id : ℕ) (before after : Db) : Decidable (KeepsDecision id before after) := by
  unfold KeepsDecision
  infer_instance

/-- The scan of a cycle. -/
def isScan : Statement → Bool
  | .select .findOverdueUnresolved => true
  | _ => false

/-- When an escalation write takes effect, no statement since its scan has
changed the decision about its ticket. -/
def DecisionKept {ι : Type} [DecidableEq ι] (c : System ι) (thread : ι) : Statement → Prop
  | .command (.applyEscalation id change) =>
      writesTicket id ⟨.command (.applyEscalation id change), c.state⟩ →
        c.KeptSince thread (fun op => isScan op) fun event =>
          KeepsDecision id event.state (exec event.op event.state).2
  | _ => True

instance {ι : Type} [DecidableEq ι] (c : System ι) (thread : ι) (statement : Statement) :
    Decidable (DecisionKept c thread statement) := by
  unfold DecisionKept
  split <;> infer_instance

omit [Postgres] in
theorem KeepsDecision.refl (id : ℕ) (db : Db) : KeepsDecision id db db :=
  fun row stored => ⟨row, stored, rfl, fun overdue => overdue⟩

omit [Postgres] in
theorem KeepsDecision.trans {id : ℕ} {first second third : Db}
    (earlier : KeepsDecision id first second) (later : KeepsDecision id second third) :
    KeepsDecision id first third := by
  intro row stored
  obtain ⟨row', stored', decided', overdue'⟩ := earlier row stored
  obtain ⟨row'', stored'', decided'', overdue''⟩ := later row' stored'
  exact ⟨row'', stored'', decided''.trans decided', fun overdue => overdue'' (overdue' overdue)⟩

omit [Postgres] in
theorem keepsDecision_advance (id elapsed : ℕ) (db : Db) :
    KeepsDecision id db (advance elapsed db) := by
  intro row stored
  refine ⟨row, stored, rfl, fun overdue => ?_⟩
  cases due : row.dueDate with
  | none => simp [due] at overdue
  | some instant =>
      have past : instant < db.now := by simpa [due] using overdue
      have later : db.now ≤ (advance elapsed db).now := by simp [advance]
      simpa using past.trans_le later

omit [Postgres] in
/-- A decision is a step for every row that is decided so. -/
theorem isNextStep_of_decision {row : TicketRow} {change : EscalationChange}
    (decided : decision row = some change) : IsNextStep row change := by
  unfold decision at decided
  split_ifs at decided with below unmarked
  · obtain rfl := Option.some.inj decided
    cases priority : row.priority <;> simp_all [IsNextStep] <;> decide
  · obtain rfl := Option.some.inj decided
    simpa [IsNextStep] using below

omit [Postgres] in
/-- Below the top, the next rung says what the rung was. -/
theorem nextPriority_injective {p q : TicketPriority} (below : p ≠ .critical)
    (below' : q ≠ .critical) (same : nextPriority p = nextPriority q) : p = q := by
  revert same
  cases p <;> cases q <;> first | contradiction | decide

omit [Postgres] in
/-- Rows that are decided alike have the values the entry says were replaced. -/
theorem startsFrom_of_decision {ticket row : TicketRow} {change : EscalationChange}
    (decided : decision ticket = some change) (same : decision row = some change) :
    ∀ entry ∈ (escalationEntry ticket change).metadata, StartsFrom row entry := by
  unfold decision at decided same
  split_ifs at decided with below unmarked
  · obtain rfl := Option.some.inj decided
    split_ifs at same with below'
    · have priority : row.priority = ticket.priority := by
        injection same with same
        injection same with next
        exact nextPriority_injective below' below next
      simp [escalationEntry, escalationMetadata, StartsFrom, priority]
    · cases same
  · obtain rfl := Option.some.inj decided
    split_ifs at same with below' unmarked'
    · cases same
    · have flag : row.isOverdue = false := by simpa using unmarked'
      simp [escalationEntry, escalationMetadata, StartsFrom, flag]

/-! ### Schedules -/

section Interleaved

variable [Bcrypt] [Unicode] {ι : Type} [DecidableEq ι]

/-- What an escalation write finds, when the decision was kept: the row is
decided as in the scan. -/
theorem found_of_kept {db : Db} {requests : ι → Request} {fuel : ι → ℕ} {turns : List (Turn ι ℕ)}
    {thread : ι} {id : ℕ} {change : EscalationChange}
    {next : Statement.Ans (.command (.applyEscalation id change)) → Service Response}
    (running : (System.run db requests fuel turns).programs thread =
      .call (.command (.applyEscalation id change)) next)
    (kept : DecisionKept (System.run db requests fuel turns) thread
      (.command (.applyEscalation id change)))
    (writes : writesTicket id ⟨.command (.applyEscalation id change),
      (System.run db requests fuel turns).state⟩) :
    ∃ row ∈ (System.run db requests fuel turns).state.tickets.get? id,
      TicketsRepository.isOverdueUnresolved
        (System.run db requests fuel turns).state.now row ∧
      decision row = some change := by
  obtain ⟨ticket, ⟨scan, scanned, member⟩, rfl, decided⟩ :=
    ((System.outlined db requests fuel turns).of_running running).decided
  obtain ⟨newer, older, split, unchanged⟩ := (kept writes).split scanned rfl
  -- Since the scan every statement has kept the decision about the ticket.
  have since : KeepsDecision ticket.id scan
      (System.run db requests fuel turns).state :=
    Config.trace_since (KeepsDecision.refl ticket.id) KeepsDecision.trans
      (keepsDecision_advance ticket.id) turns newer _ older split unchanged
  obtain ⟨stored, overdue⟩ := List.mem_filter.mp member
  obtain ⟨row, found, same, stillOverdue⟩ := since ticket (Table.get?_key stored)
  rcases applyEscalation_cases ticket.id change
    (System.run db requests fuel turns).state with
    ⟨silent, -⟩ | ⟨row', found', live, unresolved, -⟩
  · -- A write that misses its row writes no ticket.
    simp [writesTicket, silent] at writes
  · obtain rfl := Option.some.inj (found'.symm.trans found)
    refine ⟨row', found, ?_, same.trans decided⟩
    have past := stillOverdue (by simp_all [TicketsRepository.isOverdueUnresolved])
    simp [TicketsRepository.isOverdueUnresolved, past, live, unresolved]

/-- Every escalation write of a run that keeps the decisions was decided as if
the scan had just read the row. -/
theorem decided_of_kept {db : Db} {requests : ι → Request} {fuel : ι → ℕ} {turns : List (Turn ι ℕ)}
    (kept : System.Meets db requests fuel DecisionKept turns)
    {thread : ι} {id : ℕ} {change : EscalationChange} {state : Db}
    (executed : (thread, ⟨.command (.applyEscalation id change), state⟩) ∈
      (System.run db requests fuel turns).trace)
    (writes : writesTicket id ⟨.command (.applyEscalation id change), state⟩) :
    ∃ row ∈ state.tickets.get? id,
      TicketsRepository.isOverdueUnresolved state.now row ∧ decision row = some change := by
  obtain ⟨first, newer, next, -, -, rfl, running, guard⟩ := kept.sent executed
  exact found_of_kept running guard writes

/-- **Escalation is right** over every schedule that keeps the decisions: each
write takes a live, unresolved, overdue ticket one step from the row it finds,
and each entry says what the write has replaced. -/
theorem escalation_right (db : Db) (requests : ι → Request) (fuel : ι → ℕ)
    (turns : List (Turn ι ℕ))
    (kept : System.Meets db requests fuel DecisionKept turns) :
    let c := System.run db requests fuel turns
    ∀ entry ∈ c.trace, AppliedRight entry.2 ∧ AuditedRight (c.history entry.1) entry.2 := by
  rintro c ⟨thread, ⟨op, state⟩⟩ member
  constructor
  · unfold AppliedRight
    split
    · rename_i id change sent
      obtain rfl : op = _ := sent
      intro writes
      obtain ⟨row, stored, overdue, decided⟩ := decided_of_kept kept member writes
      exact ⟨row, stored, overdue, isNextStep_of_decision decided⟩
    · trivial
  · unfold AuditedRight
    split
    · rename_i input sent
      obtain rfl : op = _ := sent
      intro action
      obtain ⟨first, newer, next, -, split, -, running, -⟩ := kept.sent member
      obtain ⟨ticket, change, written, executed, writes, decided, rfl⟩ :=
        ((System.outlined db requests fuel first).of_running running).audited action
      -- The write is older than the entry, so it is in the whole trace.
      have earlier : (thread, (⟨.command (.applyEscalation ticket.id change), written⟩ :
          Event Statement Db)) ∈ c.trace := by
        rw [show c.trace = _ from split]
        exact List.mem_append_right _ (List.mem_cons_of_mem _ (Config.mem_history.mp executed))
      obtain ⟨row, stored, -, same⟩ := decided_of_kept kept earlier writes
      exact ⟨_, Config.mem_history.mpr earlier, writes, rfl, row, stored,
        startsFrom_of_decision decided same⟩
    · trivial

end Interleaved

end Right

/-! ### A manual PATCH between the scan and the write -/

section Schedules

open Sample

/-- One overdue ticket with priority LOW. -/
def overdueTicket : Db :=
  serveAll (setup ++ [.request (.createTicket ⟨"Ticket", .undefined, .undefined, .value .low, .bug,
    1, .undefined, .value "1970-01-01T00:00:01Z"⟩ 1), .advance 2000]) Db.empty

/-- An escalation cycle, and a PATCH that sets the priority to CRITICAL. -/
def cycleAndPatch : Bool → Request
  | true => .escalate
  | false => .updateTicket 1
      { title := .undefined
        description := .undefined
        status := .undefined
        priority := .value .critical
        assigneeId := .undefined
        dueDate := .undefined
        version := .value 1 } 1

/-- The cycle and the PATCH, served from `overdueTicket`. -/
def serveCycleAndPatch (turns : List Bool) : System Bool :=
  System.run overdueTicket cycleAndPatch (fun _ => 0) (turns.map .call)

/-- The PATCH is served between the scan and the write of the cycle, which then
lowers the priority from CRITICAL to MEDIUM. -/
theorem escalation_lowers_priority :
    let c := serveCycleAndPatch [true, false, false, true, true, false]
    ¬ (∀ entry ∈ c.trace, AppliedRight entry.2 ∧ AuditedRight (c.history entry.1) entry.2) ∧
      (c.state.tickets.get? 1).map (·.priority) = some .medium := by
  have wrong : ¬ ∀ entry ∈ (serveCycleAndPatch [true, false, false, true, true, false]).trace,
      AppliedRight entry.2 := by decide +kernel
  refine ⟨fun right => wrong fun entry member => (right entry member).1, ?_⟩
  decide +kernel

/-- A cycle that is served before the PATCH promotes LOW to MEDIUM. -/
theorem escalation_right_before_patch :
    let c := serveCycleAndPatch [true, true, true, false, false, false]
    ∀ entry ∈ c.trace, AppliedRight entry.2 ∧ AuditedRight (c.history entry.1) entry.2 :=
  escalation_right overdueTicket cycleAndPatch _ _ (by decide +kernel)

end Schedules

end IssueFlow
