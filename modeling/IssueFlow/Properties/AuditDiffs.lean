import IssueFlow.System.Requests

/-!
# The fields a diff lists

An UPDATE entry compares the row read before with the row the UPDATE answers
with, field by field, by `!==`. Texts, numbers, flags and `null` are compared
by value. The driver makes a new `Date` for every timestamp it reads, so that
a due date differs from itself: a diff lists the due date of a ticket also
when the update has left it alone.

## Main definitions

* `ListsChanges` — a diff lists the fields that differ, with both values

## Main results

* `Value.strictEquals_eq_iff` — the values on which `===` is equality
* `listsChanges_diffMetadata_iff` — when a diff lists the changes
* `diff_lists_changes_iff` — the fields of the three services
* `diff_lists_unchanged_date` — a due date that was left alone and is listed
-/

namespace IssueFlow

open Store Semantics

/-! ### Diffs -/

/-- `===` is equality unless both values are the same object. -/
theorem Value.strictEquals_eq_iff (first second : Value) :
    first.strictEquals second = decide (first = second) ↔
      first.isPrimitive = true ∨ first ≠ second := by
  constructor
  · intro faithful
    by_contra! failing
    obtain ⟨object, rfl⟩ := failing
    cases first with
    | date | ids => simp [strictEquals] at faithful
    | _ => cases object rfl
  · rintro (primitive | different)
    · exact strictEquals_eq second primitive
    · cases first with
      | date | ids => rw [decide_eq_false different]; rfl
      | _ => rfl

/-- The diff has the fields that differ as its keys, once each, and tells for
each the old and the new value. -/
structure ListsChanges {ρ : Type} (fields : List (String × (ρ → Value))) (before after : ρ)
    (diff : Metadata) : Prop where
  keys : ∀ name read, (name, read) ∈ fields →
    (name ∈ diff.map Prod.fst ↔ read before ≠ read after)
  values : ∀ name detail, (name, detail) ∈ diff →
    ∃ read, (name, read) ∈ fields ∧ detail = .change (read before) (read after)
  once : (diff.map Prod.fst).Nodup

section Fields

variable {ρ : Type} {fields : List (String × (ρ → Value))} {before after : ρ}

theorem mem_keys_diffMetadata {name : String} :
    name ∈ (diffMetadata before after fields).map Prod.fst ↔
      ∃ read, (name, read) ∈ fields ∧ (read before).strictEquals (read after) = false := by
  constructor
  · intro listed
    obtain ⟨⟨_, detail⟩, member, rfl⟩ := List.mem_map.mp listed
    obtain ⟨read, field, changed, -⟩ := mem_diffMetadata.mp member
    exact ⟨read, field, changed⟩
  · rintro ⟨read, field, changed⟩
    exact List.mem_map_of_mem (mem_diffMetadata.mpr ⟨read, field, changed, rfl⟩)

/-- The keys of a diff follow the order of the fields. -/
theorem keys_diffMetadata_sublist :
    ((diffMetadata before after fields).map Prod.fst).Sublist (fields.map Prod.fst) := by
  induction fields with
  | nil => exact .slnil
  | cons field fields ih =>
      rw [diffMetadata_cons]
      split_ifs
      · exact ih.cons _
      · exact ih.cons_cons _

/-- Two fields of one name are one field. -/
theorem read_eq_of_nodup (distinct : (fields.map Prod.fst).Nodup) {name : String}
    {read read' : ρ → Value} (first : (name, read) ∈ fields) (second : (name, read') ∈ fields) :
    read' = read := by
  have one := List.inj_on_of_nodup_map distinct second first rfl
  exact (Prod.mk.inj one).2

/-- **When a diff lists the changes**: `===` has to be equality on every field. -/
theorem listsChanges_diffMetadata_iff (distinct : (fields.map Prod.fst).Nodup) :
    ListsChanges fields before after (diffMetadata before after fields) ↔
      ∀ field ∈ fields, (field.2 before).isPrimitive = true ∨ field.2 before ≠ field.2 after := by
  -- A field is listed exactly when `===` tells its values apart.
  have listed (name : String) (read : ρ → Value) (field : (name, read) ∈ fields) :
      name ∈ (diffMetadata before after fields).map Prod.fst ↔
        (read before).strictEquals (read after) = false := by
    rw [mem_keys_diffMetadata]
    constructor
    · rintro ⟨read', field', changed⟩
      rwa [read_eq_of_nodup distinct field field'] at changed
    · intro changed
      exact ⟨read, field, changed⟩
  constructor
  · rintro ⟨keys, -, -⟩ ⟨name, read⟩ field
    rw [← Value.strictEquals_eq_iff, Bool.eq_iff_iff, decide_eq_true_iff, ← not_iff_not,
      Bool.not_eq_true, ← listed name read field]
    exact keys name read field
  · intro faithful
    constructor
    · intro name read field
      rw [listed name read field, (Value.strictEquals_eq_iff _ _).mpr (faithful _ field),
        decide_eq_false_iff_not]
    · intro name detail member
      obtain ⟨read, field, -, same⟩ := mem_diffMetadata.mp member
      exact ⟨read, field, same⟩
    · exact keys_diffMetadata_sublist.nodup distinct

end Fields

/-! ### The services -/

namespace TicketsService

/-- Only the due date of a ticket is an object. -/
theorem listsChanges_iff (before after : TicketRow) :
    ListsChanges diffFields before after (diffMetadata before after diffFields) ↔
      before.dueDate = none ∨ after.dueDate ≠ before.dueDate := by
  have texts : (Value.ofOption .text before.description).isPrimitive = true :=
    Value.isPrimitive_ofOption _ fun _ => rfl
  have numbers : (Value.ofOption .bigint before.assigneeId).isPrimitive = true :=
    Value.isPrimitive_ofOption _ fun _ => rfl
  -- Two dates are two objects, even when they are the same instant.
  have dates : (Value.ofOption .date before.dueDate).isPrimitive = true ∨
      Value.ofOption .date before.dueDate ≠ .ofOption .date after.dueDate ↔
        before.dueDate = none ∨ after.dueDate ≠ before.dueDate := by
    cases before.dueDate with
    | none => exact iff_of_true (.inl rfl) (.inl rfl)
    | some due => cases after.dueDate <;> simp [Value.ofOption, Value.isPrimitive, eq_comm]
  rw [listsChanges_diffMetadata_iff (by decide), ← dates]
  constructor
  · intro faithful
    exact faithful ("due_date", fun row => .ofOption .date row.dueDate) (by simp [diffFields])
  · intro due field member
    simp only [diffFields, List.mem_cons, List.not_mem_nil, or_false] at member
    rcases member with rfl | rfl | rfl | rfl | rfl | rfl | rfl
    · exact .inl rfl
    · exact .inl texts
    · exact .inl rfl
    · exact .inl rfl
    · exact .inl numbers
    · exact due
    · exact .inl rfl

/-- The due date after an UPDATE. -/
theorem dueDate_of_updated [Postgres] {id : ℕ} {expectedVersion : Option ℕ} {input : TicketUpdate}
    {resetOverdueFlag : Bool} {db stored : Db} {before after : TicketRow}
    (found : TicketsRepository.findById id db = some before)
    (updated : TicketsRepository.updateWithVersionCheck id expectedVersion input resetOverdueFlag
      db = (.ok (some after), stored)) :
    ∃ due, TicketsRepository.dueInstant input.dueDate = .ok due ∧
      after.dueDate = due.orKeep before.dueDate := by
  obtain ⟨row, due, found', -, bound, -, -, rfl, -⟩ :=
    TicketsRepository.updateWithVersionCheck_ok updated
  obtain rfl := Option.some.inj (found.symm.trans found')
  exact ⟨due, bound, rfl⟩

end TicketsService

theorem ProjectsService.listsChanges (before after : ProjectRow) :
    ListsChanges diffFields before after (diffMetadata before after diffFields) := by
  rw [listsChanges_diffMetadata_iff (by decide)]
  intro field member
  simp only [diffFields, List.mem_cons, List.not_mem_nil, or_false] at member
  rcases member with rfl | rfl
  · exact .inl rfl
  · exact .inl (Value.isPrimitive_ofOption _ fun _ => rfl)

theorem UsersService.listsChanges (before after : UserRow) :
    ListsChanges diffFields before after (diffMetadata before after diffFields) := by
  rw [listsChanges_diffMetadata_iff (by decide)]
  intro field member
  simp only [diffFields, List.mem_cons, List.not_mem_nil, or_false] at member
  rcases member with rfl | rfl
  · exact .inl rfl
  · exact .inl rfl

/-- **When a diff lists the changes**: always for projects and users, and for a
ticket unless it keeps a due date. -/
theorem diff_lists_changes_iff [Postgres] :
    (∀ before after : TicketRow,
      ListsChanges TicketsService.diffFields before after
          (diffMetadata before after TicketsService.diffFields) ↔
        before.dueDate = none ∨ after.dueDate ≠ before.dueDate) ∧
    (∀ before after : ProjectRow,
      ListsChanges ProjectsService.diffFields before after
        (diffMetadata before after ProjectsService.diffFields)) ∧
    (∀ before after : UserRow,
      ListsChanges UsersService.diffFields before after
        (diffMetadata before after UsersService.diffFields)) ∧
    ∀ id expectedVersion input resetOverdueFlag db before after stored,
      TicketsRepository.findById id db = some before →
      TicketsRepository.updateWithVersionCheck id expectedVersion input resetOverdueFlag db =
        (.ok (some after), stored) →
      ∃ due, TicketsRepository.dueInstant input.dueDate = .ok due ∧
        (ListsChanges TicketsService.diffFields before after
            (diffMetadata before after TicketsService.diffFields) ↔
          before.dueDate = none ∨ due.orKeep before.dueDate ≠ before.dueDate) := by
  refine ⟨TicketsService.listsChanges_iff, ProjectsService.listsChanges,
    UsersService.listsChanges, ?_⟩
  intro id expectedVersion input resetOverdueFlag db before after stored found updated
  obtain ⟨due, bound, patched⟩ := TicketsService.dueDate_of_updated found updated
  refine ⟨due, bound, ?_⟩
  rw [TicketsService.listsChanges_iff, patched]

section Sample

open Sample

/-- A ticket with a due date. -/
def Sample.datedTicket : Db :=
  serveAll (setup ++ [.request (.createTicket ⟨"Ticket", .undefined, .undefined, .undefined, .bug,
    1, .undefined, .value "1970-01-01T00:00:01Z"⟩ 1)]) Db.empty

/-- A PATCH of the status: its entry tells of a due date that has become itself. -/
theorem diff_lists_unchanged_date :
    let after := (serve (move 1 1 .inProgress) datedTicket).2
    (∃ entry ∈ after.auditLogs.rows,
      entry.metadata = [("status", .change (.text "TODO") (.text "IN_PROGRESS")),
        ("due_date", .change (.date 1000) (.date 1000))]) ∧
    ∃ before new, datedTicket.tickets.get? 1 = some before ∧ after.tickets.get? 1 = some new ∧
      new.dueDate = before.dueDate ∧
      ¬ListsChanges TicketsService.diffFields before new
        (diffMetadata before new TicketsService.diffFields) := by
  intro after
  have listed : (after.auditLogs.rows.map (·.metadata)).contains
      [("status", .change (.text "TODO") (.text "IN_PROGRESS")),
        ("due_date", .change (.date 1000) (.date 1000))] = true := by decide +kernel
  have dated : (datedTicket.tickets.get? 1).map (·.dueDate) = some (some 1000) := by
    decide +kernel
  have kept : (after.tickets.get? 1).map (·.dueDate) = some (some 1000) := by decide +kernel
  obtain ⟨entry, member, metadata⟩ := List.mem_map.mp (List.contains_iff_mem.mp listed)
  obtain ⟨before, stored, due⟩ := Option.map_eq_some_iff.mp dated
  obtain ⟨new, rewritten, same⟩ := Option.map_eq_some_iff.mp kept
  refine ⟨⟨entry, member, metadata⟩, before, new, stored, rewritten, same.trans due.symm, ?_⟩
  rw [TicketsService.listsChanges_iff, due, same]
  simp

end Sample

end IssueFlow
