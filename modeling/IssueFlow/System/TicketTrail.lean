import IssueFlow.Semantics.Projection
import IssueFlow.System.TicketEffects

/-!
# What the audit log tells of a ticket

The entry about a new ticket lists its columns, the entries about updates and
escalations tell which of them have changed, and those about deletions of users
tell which assignees are gone. Replayed, the entries tell what the ticket looks
like. What they never tell of is the description and the due date at the
creation, so these are left out.

## Main definitions

* `TicketFacts`, `TicketRow.facts` — the columns the entries tell of
* `TicketFacts.tell`, `ticketTrail` — what an entry makes of them
* `Accounted` — what was done was also told

## Main results

* `TicketRow.facts_inj` — the facts determine the columns
* `TicketFacts.changed_update`, `tell_escalation` — updates and escalations
* `tells_of_quiet`, `tells_set` — entries about other things, and about one ticket
-/

namespace IssueFlow

open Store Semantics JavaScript

/-! ### Facts -/

/-- What is known of a ticket. -/
structure TicketFacts where
  values : List (String × Value)
  deleted : Bool
  deriving DecidableEq, Repr

/-- The columns that the entry about a new ticket tells of, and the flag, which
is always cleared at first. The assignee is a text, as the diffs have it. -/
def toldFields : List (String × (TicketRow → Value)) :=
  [("title", fun row => .text row.title),
    ("projectId", fun row => .number row.projectId),
    ("type", fun row => .text row.type.text),
    ("status", fun row => .text row.status.text),
    ("priority", fun row => .text row.priority.text),
    ("assignee_id", fun row => .ofOption .bigint row.assigneeId),
    ("is_overdue", fun row => .bool row.isOverdue)]

def TicketRow.facts (row : TicketRow) : TicketFacts where
  values := fieldValues toldFields row
  deleted := !row.isLive

theorem Value.bigint_injective : Function.Injective Value.bigint := by
  intro first second same
  have digits := Value.text.inj same
  rw [Nat.toString_eq_ofList_toDigits, Nat.toString_eq_ofList_toDigits, String.ofList_inj] at digits
  rw [← Nat.ofDigitChars_ten_toDigits (n := first), digits, Nat.ofDigitChars_ten_toDigits]

theorem TicketStatus.text_injective : Function.Injective TicketStatus.text := by
  intro first second same
  exact Option.some.inj (by rw [← ofText?_text first, same, ofText?_text])

theorem TicketPriority.text_injective : Function.Injective TicketPriority.text := by
  intro first second same
  exact Option.some.inj (by rw [← ofText?_text first, same, ofText?_text])

theorem TicketType.text_injective : Function.Injective TicketType.text := by
  intro first second same
  exact Option.some.inj (by rw [← ofText?_text first, same, ofText?_text])

/-- **The facts determine the columns** they tell of. -/
theorem TicketRow.facts_inj {first second : TicketRow} (same : first.facts = second.facts) :
    first.title = second.title ∧ first.projectId = second.projectId ∧ first.type = second.type ∧
      first.status = second.status ∧ first.priority = second.priority ∧
      first.assigneeId = second.assigneeId ∧ first.isOverdue = second.isOverdue ∧
      first.isLive = second.isLive := by
  have values := congrArg TicketFacts.values same
  simp only [facts, fieldValues, toldFields, List.map_cons, List.map_nil, List.cons.injEq,
    Prod.mk.injEq, true_and, and_true, Value.text.injEq, Value.number.injEq,
    Value.bool.injEq] at values
  obtain ⟨title, project, type, status, priority, assignee, overdue⟩ := values
  have live : (!first.isLive) = !second.isLive := congrArg TicketFacts.deleted same
  refine ⟨title, project, TicketType.text_injective type, TicketStatus.text_injective status,
    TicketPriority.text_injective priority, ?_, overdue, Bool.not_inj live⟩
  cases mine : first.assigneeId with
  | none =>
      cases other : second.assigneeId with
      | none => rfl
      | some id =>
          rw [mine, other] at assignee
          cases assignee
  | some id =>
      cases other : second.assigneeId with
      | none =>
          rw [mine, other] at assignee
          cases assignee
      | some id' =>
          rw [mine, other] at assignee
          rw [Value.bigint_injective assignee]

/-! ### Entries -/

/-- The column that a metadata field is about; the services are not consistent
about the spelling. -/
def columnName : String → String
  | "assigneeId" => "assignee_id"
  | "isOverdue" => "is_overdue"
  | name => name

namespace TicketFacts

/-- A value that the entry about a new ticket lists, as the column holds it: that
entry has the assignee as a number, and the diffs have it as a text. -/
def columnValue (name : String) : Value → Value
  | .number value => if name = "assignee_id" then .bigint value else .number value
  | value => value

@[simp] theorem columnValue_text (name value : String) :
    columnValue name (.text value) = .text value := rfl

theorem columnValue_number {name : String} (other : name ≠ "assignee_id") (value : ℕ) :
    columnValue name (.number value) = .number value := if_neg other

@[simp] theorem columnValue_assignee (assignee : Option ℕ) :
    columnValue "assignee_id" (.ofOption .number assignee) = .ofOption .bigint assignee := by
  cases assignee <;> rfl

/-- What the entry about a new ticket tells. -/
def created (metadata : Metadata) : TicketFacts where
  values := metadata.filterMap (fun (name, detail) =>
    match detail with
    | .value value => some (columnName name, columnValue (columnName name) value)
    | .change .. => none) ++ [("is_overdue", .bool false)]
  deleted := false

/-- Make the changes that an entry tells of. -/
def changed (metadata : Metadata) (facts : TicketFacts) : TicketFacts :=
  { facts with
    values := replayDiff facts.values (metadata.map fun field => (columnName field.1, field.2)) }

/-- A user is gone. -/
def unassigned (user : ℕ) (facts : TicketFacts) : TicketFacts :=
  { facts with
    values := facts.values.map fun (name, value) =>
      if name = "assignee_id" ∧ value = .bigint user then (name, .null) else (name, value) }

/-- What an entry makes of what is known about a ticket. -/
def tell (id : ℕ) (known : Option TicketFacts) (entry : AuditInsert) : Option TicketFacts :=
  match entry.entityType, entry.action with
  | .user, .delete => known.map (unassigned entry.entityId)
  | .ticket, action =>
      if entry.entityId ≠ id then known
      else
        match action with
        | .create => some (created entry.metadata)
        | .update | .priorityEscalated => known.map (changed entry.metadata)
        | .delete => known.map fun facts => { facts with deleted := true }
        | .restore => known.map fun facts => { facts with deleted := false }
        | _ => known
  | _, _ => known

end TicketFacts

/-- The tickets of a database, as the audit log tells of them. -/
def ticketTrail : Projection Db AuditInsert ℕ TicketFacts where
  view db id := (db.tickets.get? id).map TicketRow.facts
  tell := TicketFacts.tell

/-- Entries that tell nothing of any ticket. -/
def EntryKey.isQuiet (key : EntryKey) : Bool :=
  match key.entityType, key.action with
  | .user, .delete => false
  | .ticket, .autoAssign => true
  | .ticket, _ => false
  | _, _ => true

theorem silent_of_quiet {entry : AuditInsert} (quiet : entry.key.isQuiet = true) (id : ℕ) :
    ticketTrail.Silent id entry := by
  intro known
  obtain ⟨action, entityType, entityId, performedBy, actor, metadata⟩ := entry
  simp only [EntryKey.isQuiet, AuditInsert.key] at quiet
  simp only [ticketTrail, TicketFacts.tell]
  cases entityType with
  | ticket =>
      cases action with
      | autoAssign => exact ite_self known
      | _ => cases quiet
  | user =>
      cases action with
      | delete => cases quiet
      | _ => rfl
  | _ => rfl

/-- An entry about another ticket. -/
theorem silent_of_other {entry : AuditInsert} {id : ℕ} (entityType : entry.entityType = .ticket)
    (other : entry.entityId ≠ id) : ticketTrail.Silent id entry := by
  intro known
  simp only [ticketTrail, TicketFacts.tell, entityType]
  exact if_pos other

/-! ### Updates -/

theorem Value.eq_of_strictEquals {first second : Value}
    (same : first.strictEquals second = true) : first = second := by
  cases first with
  | date | ids => cases same
  | _ => exact of_decide_eq_true same

/-- A diff replayed on some of the compared fields, and on others that have not
changed. -/
theorem replayDiff_diffMetadata_of_subset {ρ : Type} {fields told : List (String × (ρ → Value))}
    {before after : ρ} (distinct : (fields.map Prod.fst).Nodup)
    (covered : ∀ field ∈ told, field ∈ fields ∨
      field.1 ∉ fields.map Prod.fst ∧ field.2 before = field.2 after) :
    replayDiff (fieldValues told before) (diffMetadata before after fields) =
      fieldValues told after := by
  rw [replayDiff, fieldValues, List.map_map]
  apply List.map_congr_left
  rintro ⟨name, read⟩ member
  simp only [Function.comp_apply]
  rcases covered _ member with compared | ⟨other, same⟩
  · rw [lookup_diffMetadata distinct compared]
    split_ifs with same
    · rw [Value.eq_of_strictEquals same]
    · rfl
  · rw [lookup_diffMetadata_of_notMem other]
    exact congrArg (Prod.mk name) same

/-- The columns that a diff names are spelled like columns. -/
theorem map_columnName_diffMetadata (before after : TicketRow) :
    (diffMetadata before after TicketsService.diffFields).map
      (fun field => (columnName field.1, field.2)) =
        diffMetadata before after TicketsService.diffFields := by
  refine (List.map_congr_left ?_).trans (List.map_id _)
  rintro ⟨name, detail⟩ member
  obtain ⟨read, member, -, -⟩ := mem_diffMetadata.mp member
  have spelled : ∀ name ∈ TicketsService.diffFields.map Prod.fst, columnName name = name := by
    decide
  rw [spelled name (List.mem_map_of_mem member)]
  rfl

/-- **The entry about an update** leads from the row that was read to the one
that was written. -/
theorem TicketFacts.changed_update {before after : TicketRow}
    (project : after.projectId = before.projectId) (type : after.type = before.type)
    (live : after.isLive = before.isLive) :
    before.facts.changed (diffMetadata before after TicketsService.diffFields) = after.facts := by
  rw [changed, map_columnName_diffMetadata]
  simp only [TicketRow.facts]
  rw [live, replayDiff_diffMetadata_of_subset (by decide)]
  intro field member
  simp only [toldFields, List.mem_cons, List.not_mem_nil, or_false] at member
  rcases member with rfl | rfl | rfl | rfl | rfl | rfl | rfl
  · exact .inl (by simp [TicketsService.diffFields])
  · exact .inr ⟨by decide, congrArg Value.number project.symm⟩
  · exact .inr ⟨by decide, congrArg (fun type => Value.text type.text) type.symm⟩
  · exact .inl (by simp [TicketsService.diffFields])
  · exact .inl (by simp [TicketsService.diffFields])
  · exact .inl (by simp [TicketsService.diffFields])
  · exact .inl (by simp [TicketsService.diffFields])

/-! ### Outcomes that are told -/

/-- What a request has done is told by the entries it has appended. -/
def Accounted {α : Type} (db : Db) (outcome : Except Exception α × Db) : Prop :=
  ∃ entries, Appended entries db outcome.2 ∧ ticketTrail.Tells entries db outcome.2

section Outcomes

variable {db after : Db} {entries : List AuditInsert} {id : ℕ}

theorem view_eq {row : TicketRow} (found : db.tickets.get? id = some row) :
    ticketTrail.view db id = some row.facts := congrArg (Option.map TicketRow.facts) found

/-- The tickets are the same, and the entries are about other things. -/
theorem tells_of_quiet (quiet : ∀ entry ∈ entries, entry.key.isQuiet = true)
    (same : ∀ {id row}, db.tickets.get? id = some row → after.tickets.get? id = some row) :
    ticketTrail.Tells entries db after := by
  refine .of_silent (fun id entry member => silent_of_quiet (quiet entry member) id) ?_
  intro id seen found
  obtain ⟨row, stored, rfl⟩ := Option.map_eq_some_iff.mp found
  exact view_eq (same stored)

/-- One ticket was written, and the entry about it leads to its new columns. -/
theorem tells_set {old new : TicketRow} {entry : AuditInsert}
    (stored : db.tickets.get? id = some old) (entityType : entry.entityType = .ticket)
    (entityId : entry.entityId = id)
    (told : TicketFacts.tell id (some old.facts) entry = some new.facts)
    (unknown : TicketFacts.tell id none entry = none)
    (tickets : ∀ other, after.tickets.get? other =
      if other = id then some new else db.tickets.get? other) :
    ticketTrail.Tells [entry] db after where
  stored {other seen} found := by
    by_cases same : other = id
    · subst same
      rw [view_eq stored] at found
      obtain rfl := Option.some.inj found
      exact ⟨new.facts, view_eq ((tickets other).trans (if_pos rfl)), told⟩
    · refine ⟨seen, ?_, silent_of_other entityType (entityId ▸ Ne.symm same) _⟩
      rw [← found]
      exact congrArg (Option.map TicketRow.facts) ((tickets other).trans (if_neg same))
  fresh {other seen} known := by
    by_cases same : other = id
    · subst same
      cases unknown.symm.trans known
    · cases (silent_of_other entityType (entityId ▸ Ne.symm same) none).symm.trans known

/-- A ticket was added, and the entry about it lists its columns. -/
theorem tells_insert {new : TicketRow} {entry : AuditInsert} (fresh : db.tickets.get? id = none)
    (entityType : entry.entityType = .ticket) (entityId : entry.entityId = id)
    (told : ∀ known, TicketFacts.tell id known entry = some new.facts)
    (tickets : ∀ other, after.tickets.get? other =
      if other = id then some new else db.tickets.get? other) :
    ticketTrail.Tells [entry] db after where
  stored {other seen} found := by
    have different : other ≠ id := by
      rintro rfl
      have nothing : ticketTrail.view db other = none := congrArg (Option.map _) fresh
      cases nothing.symm.trans found
    refine ⟨seen, ?_, silent_of_other entityType (entityId ▸ different.symm) _⟩
    rw [← found]
    exact congrArg (Option.map TicketRow.facts) ((tickets other).trans (if_neg different))
  fresh {other seen} known := by
    by_cases same : other = id
    · subst same
      obtain rfl := Option.some.inj ((told none).symm.trans known)
      exact view_eq ((tickets other).trans (if_pos rfl))
    · cases (silent_of_other entityType (entityId ▸ Ne.symm same) none).symm.trans known

/-- A user was deleted, and the entry about it says so. -/
theorem tells_unassigned {user : ℕ} {entry : AuditInsert} (entityType : entry.entityType = .user)
    (action : entry.action = .delete) (entityId : entry.entityId = user)
    (tickets : after.tickets = UsersRepository.clearAssignee user db) :
    ticketTrail.Tells [entry] db after where
  stored {id seen} found := by
    obtain ⟨row, stored, rfl⟩ := Option.map_eq_some_iff.mp found
    have here : after.tickets.get? id = some (if row.assigneeId = some user then
        { row with assigneeId := none, updatedAt := db.now } else row) := by
      rw [tickets, UsersRepository.clearAssignee, Table.get?_update, stored]
      simp
    refine ⟨_, view_eq here, ?_⟩
    have told : ticketTrail.rebuild id (some row.facts) [entry] =
        some (row.facts.unassigned user) := by
      simp [ticketTrail, TicketFacts.tell, entityType, action, entityId]
    rw [told]
    -- The only column with this name is the assignee.
    split_ifs with assigned
    · simp [TicketFacts.unassigned, TicketRow.facts, fieldValues, toldFields, assigned,
        Value.ofOption, TicketRow.isLive]
    · have other : Value.ofOption .bigint row.assigneeId ≠ .bigint user := by
        intro same
        cases given : row.assigneeId with
        | none =>
            rw [given] at same
            cases same
        | some assignee =>
            rw [given] at same
            exact assigned (given.trans (congrArg some (Value.bigint_injective same)))
      simp [TicketFacts.unassigned, TicketRow.facts, fieldValues, toldFields, other]
  fresh {id seen} told := by
    simp [ticketTrail, TicketFacts.tell, entityType, action] at told

end Outcomes

end IssueFlow
