import IssueFlow.Semantics.Sequence
import IssueFlow.System.Sequential
import IssueFlow.System.TicketEffects

/-!
# The overdue flag

An escalation cycle raises the priority of an overdue ticket step by step and
then sets its flag; a PATCH that supplies a priority clears it. So only
`CRITICAL` tickets carry the flag. Whether the due date of a flagged ticket is
still in the past is another matter: a PATCH that supplies a due date but no
priority moves the date and leaves the flag.

## Main definitions

* `OnlyCritical`, `Truthful` — the two readings of the flag
* `priorityRank` — the rung of a priority
* `KeepsPast` — a PATCH that does not move a flagged ticket's date out of the past

## Main results

* `overdue_critical` — the flag and the priority along every run
* `overdue_truthful` — the flag tells the truth as long as no such PATCH is sent
* `flag_outlives_dueDate` — a flagged ticket without a due date
-/

namespace IssueFlow

open Store Semantics JavaScript

/-- Only `CRITICAL` tickets carry the flag. -/
def OnlyCritical (db : Db) : Prop :=
  ∀ row ∈ db.tickets.rows, row.isOverdue → row.priority = .critical

/-- Tickets that carry the flag have a due date in the past. -/
def Truthful (db : Db) : Prop :=
  ∀ row ∈ db.tickets.rows, row.isOverdue → ∃ due, row.dueDate = some due ∧ due < db.now

/-- The rung of a priority on the ladder. -/
def priorityRank (priority : TicketPriority) : ℕ := PRIORITY_LADDER.idxOf priority

/-! ### A cycle and the flag -/

section Cycle

open EscalationService

theorem rank_nextPriority (priority : TicketPriority) :
    priorityRank priority ≤ priorityRank (nextPriority priority) := by
  cases priority <;> decide

/-- A cycle flags a ticket only when it is `CRITICAL` already, and an unflagged
one keeps its flag clear while it is promoted. -/
theorem cycledRow_cases (now : Timestamp) (row : TicketRow) :
    cycledRow now row = row ∨
      (row.priority ≠ .critical ∧ (cycledRow now row).isOverdue = row.isOverdue ∧
        (cycledRow now row).dueDate = row.dueDate ∧
        (cycledRow now row).priority = nextPriority row.priority) ∨
      (row.priority = .critical ∧ TicketsRepository.isOverdueUnresolved now row = true ∧
        (cycledRow now row).dueDate = row.dueDate ∧
        (cycledRow now row).priority = row.priority) := by
  unfold cycledRow
  by_cases scanned : TicketsRepository.isOverdueUnresolved now row = true
  · rw [if_pos scanned]
    unfold decidedRow decision
    by_cases critical : row.priority = .critical
    · rw [if_neg (not_not.mpr critical)]
      cases row.isOverdue with
      | true => exact .inl rfl
      | false => exact .inr (.inr ⟨critical, scanned, rfl, rfl⟩)
    · rw [if_pos critical]
      exact .inr (.inl ⟨critical, rfl, rfl, rfl⟩)
  · exact .inl (if_neg scanned)

theorem rank_cycledRow (now : Timestamp) (row : TicketRow) :
    priorityRank row.priority ≤ priorityRank (cycledRow now row).priority := by
  rcases cycledRow_cases now row with same | ⟨-, -, -, promoted⟩ | ⟨-, -, -, kept⟩
  · rw [same]
  · rw [promoted]
    exact rank_nextPriority row.priority
  · rw [kept]

end Cycle

/-! ### Only critical tickets -/

section Serving

variable [Postgres] [Bcrypt] [Unicode] {db : Db} {request : Request} {row row' : TicketRow}

omit [Bcrypt] [Unicode] in
theorem TicketEffect.onlyCritical (effect : TicketEffect db request row row')
    (before : row.isOverdue → row.priority = .critical) :
    row'.isOverdue → row'.priority = .critical := by
  cases effect with
  | kept => exact before
  | @patched _ dto due performedBy live version bound =>
      intro flagged
      simp only [TicketsRepository.patchedRow, Bool.and_eq_true, Bool.not_eq_true'] at flagged ⊢
      obtain ⟨unsupplied, flagged⟩ := flagged
      -- Without a supplied priority both columns are the old ones.
      cases supplied : dto.priority with
      | undefined => exact before flagged
      | null =>
          rw [supplied] at unsupplied
          cases unsupplied
      | value priority =>
          rw [supplied] at unsupplied
          cases unsupplied
  | cycled =>
      intro flagged
      rcases cycledRow_cases db.now row with
        same | ⟨notCritical, kept, -, -⟩ | ⟨critical, -, -, kept⟩
      · rw [same] at flagged ⊢
        exact before flagged
      · -- A promotion leaves the flag alone, so it was set on a ticket that is not critical.
        rw [kept] at flagged
        exact absurd (before flagged) notCritical
      · rw [kept]
        exact critical
  | softDeleted live => exact before
  | restored deleted => exact before
  | unassigned assigned => exact before

omit [Bcrypt] [Unicode] in
/-- Only a PATCH that supplies a priority lowers it. -/
theorem TicketEffect.lowered (effect : TicketEffect db request row row')
    (lower : priorityRank row'.priority < priorityRank row.priority) :
    ∃ dto performedBy, request = .updateTicket row.id dto performedBy ∧ dto.priority.isDefined ∧
      row'.isOverdue = false := by
  cases effect with
  | kept => exact absurd lower (lt_irrefl _)
  | @patched _ dto due performedBy live version bound =>
      -- Without a supplied priority the row keeps the one it has.
      have supplied : dto.priority.isDefined = true := by
        cases supplied : dto.priority with
        | undefined =>
            rw [TicketsRepository.patchedRow, supplied] at lower
            exact absurd lower (lt_irrefl _)
        | null | value => rfl
      refine ⟨dto, performedBy, rfl, supplied, ?_⟩
      simp [TicketsRepository.patchedRow, supplied]
  | cycled => exact absurd lower (rank_cycledRow db.now row).not_gt
  | softDeleted live => exact absurd lower (lt_irrefl _)
  | restored deleted => exact absurd lower (lt_irrefl _)
  | unassigned assigned => exact absurd lower (lt_irrefl _)

/-- An invariant of the tickets one by one: new tickets have it, and a request
that is served alone keeps it. -/
theorem serve_tickets_invariant (invariant : Timestamp → TicketRow → Prop)
    (created : ∀ input due now id,
      invariant now (TicketsRepository.createdRow input due now id))
    (kept : ∀ row row', db.tickets.get? row.id = some row → TicketEffect db request row row' →
      invariant db.now row → invariant db.now row')
    (holds : ∀ row ∈ db.tickets.rows, invariant db.now row) :
    ∀ row ∈ (serve request db).2.tickets.rows, invariant db.now row := by
  intro row' member
  have stored' := Table.get?_key member
  cases stored : db.tickets.get? (Keyed.key row') with
  | none =>
      obtain ⟨input, due, same⟩ := serve_created stored stored'
      rw [same]
      exact created input due db.now _
  | some row =>
      obtain ⟨last, storedLast, effect⟩ := serve_ticket request stored
      obtain rfl := Option.some.inj (storedLast.symm.trans stored')
      have own : row.id = Keyed.key last := Table.key_of_get? stored
      exact kept row last (own ▸ stored) effect (holds row (Table.mem_of_get? stored))

theorem serve_onlyCritical (request : Request) (critical : OnlyCritical db) :
    OnlyCritical (serve request db).2 := by
  refine serve_tickets_invariant (fun _ row => row.isOverdue → row.priority = .critical) ?_ ?_
    critical
  · intro input due now id flagged
    cases flagged
  · intro row row' _ effect before
    exact effect.onlyCritical before

theorem serveAll_onlyCritical (inputs : List Input) : OnlyCritical (serveAll inputs Db.empty) := by
  refine serveAll_invariant OnlyCritical ?_ ?_ ?_ inputs
  · intro row member
    cases member
  · intro request db critical
    exact serve_onlyCritical request critical
  · intro elapsed db critical
    exact critical

/-- **Only critical tickets carry the flag**, after every sequence of requests;
and the next request lowers a priority only if it is a PATCH that supplies one,
and such a PATCH leaves the flag clear. -/
theorem overdue_critical (inputs : List Input) (input : Input) :
    OnlyCritical (serveAll inputs Db.empty) ∧
      ∀ row, (serveAll inputs Db.empty).tickets.get? row.id = some row →
        ∃ row', (serveAll (inputs ++ [input]) Db.empty).tickets.get? row.id = some row' ∧
          (priorityRank row'.priority < priorityRank row.priority →
            ∃ dto performedBy, input = .request (.updateTicket row.id dto performedBy) ∧
              dto.priority.isDefined ∧ row'.isOverdue = false) ∧
          ∀ dto performedBy response, input = .request (.updateTicket row.id dto performedBy) →
            (serve (.updateTicket row.id dto performedBy) (serveAll inputs Db.empty)).1 =
              .ok response →
            dto.priority.isDefined → row'.isOverdue = false := by
  refine ⟨serveAll_onlyCritical inputs, fun row stored => ?_⟩
  have last : serveAll (inputs ++ [input]) Db.empty = input.apply (serveAll inputs Db.empty) := by
    rw [serveAll, List.foldl_append]
    rfl
  rw [last]
  generalize serveAll inputs Db.empty = db at stored ⊢
  cases input with
  -- The clock changes no ticket.
  | advance elapsed =>
      refine ⟨row, stored, fun lower => absurd lower (lt_irrefl _), ?_⟩
      intro dto performedBy response same
      cases same
  | request sent =>
      obtain ⟨row', stored', effect⟩ := serve_ticket sent stored
      refine ⟨row', stored', ?_, ?_⟩
      · -- Only a PATCH lowers a priority, and it clears the flag.
        intro lower
        obtain ⟨dto, performedBy, rfl, supplied, clear⟩ := effect.lowered lower
        exact ⟨dto, performedBy, rfl, supplied, clear⟩
      · intro dto performedBy response same succeeded supplied
        cases same
        obtain ⟨before, due, -, -, -, -, written⟩ := serve_updateTicket_ok succeeded
        obtain rfl := Option.some.inj (stored'.symm.trans written)
        simp [TicketsRepository.patchedRow, supplied]

/-! ### Due dates in the past -/

/-- Does the supplied due date take a date out of the past? -/
def leavesPast (now : Timestamp) (dueDate : Field String) : Bool :=
  match TicketsRepository.dueInstant dueDate with
  | .ok .null => true
  | .ok (.value instant) => !decide (instant < now)
  | _ => false

/-- A PATCH without priority that takes the date of a flagged ticket out of the
past. -/
def takesFlaggedOut (db : Db) : Input → Bool
  | .request (.updateTicket id dto _) =>
      !dto.priority.isDefined && leavesPast db.now dto.dueDate &&
        (TicketsRepository.findById id db).any fun row =>
          row.isOverdue && dto.version.toOption = some row.version
  | _ => false

/-- The input does not take the date of a flagged ticket out of the past. -/
def KeepsPast (db : Db) (input : Input) : Prop := takesFlaggedOut db input = false

instance (db : Db) (input : Input) : Decidable (KeepsPast db input) :=
  inferInstanceAs (Decidable (takesFlaggedOut db input = false))

/-- The flag of one ticket tells the truth. -/
def TruthfulRow (now : Timestamp) (row : TicketRow) : Prop :=
  row.isOverdue → ∃ due, row.dueDate = some due ∧ due < now

omit [Bcrypt] [Unicode] in
theorem TicketEffect.truthful (effect : TicketEffect db request row row')
    (stored : db.tickets.get? row.id = some row) (keeps : KeepsPast db (.request request))
    (before : TruthfulRow db.now row) : TruthfulRow db.now row' := by
  cases effect with
  | kept => exact before
  | @patched _ dto due performedBy live version bound =>
      intro flagged
      simp only [TicketsRepository.patchedRow, Bool.and_eq_true, Bool.not_eq_true'] at flagged ⊢
      obtain ⟨unsupplied, flagged⟩ := flagged
      have found : TicketsRepository.findById row.id db = some row :=
        Option.filter_eq_some_iff.mpr ⟨stored, live⟩
      have stays : leavesPast db.now dto.dueDate = false := by
        simpa [KeepsPast, takesFlaggedOut, unsupplied, found, flagged, version] using keeps
      rw [leavesPast, bound] at stays
      cases due with
      | undefined => exact before flagged
      | null => cases stays
      | value instant => exact ⟨instant, rfl, by simpa using stays⟩
  | cycled =>
      intro flagged
      rcases cycledRow_cases db.now row with same | ⟨-, kept, date, -⟩ | ⟨-, overdue, date, -⟩
      · rw [same] at flagged ⊢
        exact before flagged
      · rw [kept] at flagged
        rw [date]
        exact before flagged
      · -- The scan finds only tickets whose date has passed.
        rw [date]
        simp only [TicketsRepository.isOverdueUnresolved, Bool.and_eq_true] at overdue
        have past := overdue.1.1
        cases dated : row.dueDate with
        | none =>
            rw [dated] at past
            cases past
        | some due =>
            rw [dated] at past
            exact ⟨due, rfl, of_decide_eq_true past⟩
  | softDeleted live => exact before
  | restored deleted => exact before
  | unassigned assigned => exact before

omit [Postgres] [Bcrypt] [Unicode] in
/-- Dates in the past stay in the past. -/
theorem Truthful.advance (truthful : Truthful db) (elapsed : ℕ) :
    Truthful (IssueFlow.advance elapsed db) := by
  intro row member flagged
  obtain ⟨due, dated, past⟩ := truthful row member flagged
  have later : db.now ≤ db.now + (elapsed : ℤ) :=
    Int.le_add_of_nonneg_right (Int.natCast_nonneg elapsed)
  exact ⟨due, dated, past.trans_le later⟩

theorem truthful_apply (input : Input) (keeps : KeepsPast db input) (truthful : Truthful db) :
    Truthful (input.apply db) := by
  cases input with
  | advance elapsed => exact truthful.advance elapsed
  | request sent =>
      have rows : ∀ row ∈ (serve sent db).2.tickets.rows, TruthfulRow db.now row := by
        apply serve_tickets_invariant TruthfulRow
        · intro input due now id flagged
          cases flagged
        · intro row row' stored effect before
          exact effect.truthful stored keeps before
        · exact truthful
      have now := serve_now sent db
      intro row member flagged
      rw [Input.apply, now]
      exact rows row member flagged

/-- **The flag tells the truth** in every state of a sequence of requests that
never moves the date of a flagged ticket out of the past without supplying a
priority. -/
theorem overdue_truthful (inputs : List Input)
    (keeps : Guarded (fun db input => Input.apply input db) KeepsPast inputs Db.empty) :
    ∀ reached, reached <+: inputs → Truthful (serveAll reached Db.empty) := by
  rintro reached ⟨rest, rfl⟩
  obtain ⟨first, -⟩ := (guarded_append reached rest).mp keeps
  apply first.invariant Truthful
  · intro db input here truthful
    exact truthful_apply input here truthful
  · intro row member
    cases member

end Serving

/-! ### A due date that is removed -/

section Runs

open Sample

/-- A PATCH of the due date alone. -/
def patchDueDate (version : ℕ) (dueDate : Field String) : Input :=
  .request (.updateTicket 1
    { title := .undefined
      description := .undefined
      status := .undefined
      priority := .undefined
      assigneeId := .undefined
      dueDate := dueDate
      version := .value version } 1)

/-- Three cycles after the due date: the ticket goes from `MEDIUM` over `HIGH`
to `CRITICAL` and is flagged. -/
def flaggedTicket : List Input :=
  setup ++ [dueTicket, .advance 2000, .request .escalate, .request .escalate, .request .escalate]

/-- The due date of the flagged ticket is removed; the flag stays. -/
theorem flag_outlives_dueDate :
    ¬ ∀ (inputs : List Input), ∀ row ∈ (serveAll inputs Db.empty).tickets.rows,
      row.isOverdue → ∃ due, row.dueDate = some due ∧
        due < (serveAll inputs Db.empty).now := by
  have flagged : ∃ row ∈ (serveAll (flaggedTicket ++ [patchDueDate 4 .null]) Db.empty).tickets.rows,
      row.isOverdue = true ∧ row.dueDate = none := by decide +kernel
  obtain ⟨row, member, isOverdue, removed⟩ := flagged
  intro claim
  obtain ⟨due, dated, -⟩ := claim _ row member isOverdue
  rw [removed] at dated
  cases dated

/-- A PATCH that sets the date of the flagged ticket to one that has passed. -/
theorem overdue_truthful_past :
    (¬ ∀ row ∈ (serveAll (flaggedTicket ++ [patchDueDate 4 (.value "1970-01-01T00:00:01Z")])
        Db.empty).tickets.rows, row.isOverdue = false) ∧
      ∀ reached, reached <+: flaggedTicket ++ [patchDueDate 4 (.value "1970-01-01T00:00:01Z")] →
        Truthful (serveAll reached Db.empty) :=
  ⟨by decide +kernel, overdue_truthful _ (by decide +kernel)⟩

end Runs

end IssueFlow
