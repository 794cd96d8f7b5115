import IssueFlow.Database.Columns
import IssueFlow.Store.Select
import IssueFlow.Store.WhereClause

/-!
# Searching the audit log

`AuditRepository.find`: the entries that meet every supplied filter, newest
first. That is the order of their times, which are the starts of the transactions
they were made in, so an entry may come to stand behind older ones.

## Main definitions

* `AuditRepository.whereClause`, `AuditRepository.find` — `audit.repository.ts`

## Main results

* `AuditRepository.find_eq` — a search in closed form
* `AuditRepository.find_sublist` — a search in a log that has grown
-/

namespace IssueFlow

open Store

/-! ### Labels -/

/-- The label of the `audit_action` enumeration. -/
def AuditAction.text : AuditAction → String
  | .create => "CREATE"
  | .update => "UPDATE"
  | .delete => "DELETE"
  | .restore => "RESTORE"
  | .autoAssign => "AUTO_ASSIGN"
  | .priorityEscalated => "PRIORITY_ESCALATED"
  | .login => "LOGIN"
  | .logout => "LOGOUT"

/-- The label of the `audit_entity` enumeration. -/
def AuditEntity.text : AuditEntity → String
  | .user => "USER"
  | .project => "PROJECT"
  | .ticket => "TICKET"
  | .comment => "COMMENT"
  | .attachment => "ATTACHMENT"
  | .dependency => "DEPENDENCY"

/-- The label of the `audit_actor` enumeration. -/
def AuditActor.text : AuditActor → String
  | .user => "USER"
  | .system => "SYSTEM"

@[inherit_doc UserRole.values]
def AuditAction.values : List AuditAction :=
  [.create, .update, .delete, .restore, .autoAssign, .priorityEscalated, .login, .logout]

@[inherit_doc UserRole.values]
def AuditEntity.values : List AuditEntity :=
  [.user, .project, .ticket, .comment, .attachment, .dependency]

@[inherit_doc UserRole.values]
def AuditActor.values : List AuditActor := [.user, .system]

@[inherit_doc UserRole.ofText?]
def AuditAction.ofText? (label : String) : Option AuditAction := values.find? (·.text = label)

@[inherit_doc UserRole.ofText?]
def AuditEntity.ofText? (label : String) : Option AuditEntity := values.find? (·.text = label)

@[inherit_doc UserRole.ofText?]
def AuditActor.ofText? (label : String) : Option AuditActor := values.find? (·.text = label)

@[simp] theorem AuditAction.ofText?_text (action : AuditAction) :
    ofText? action.text = some action := by
  cases action <;> decide

@[simp] theorem AuditEntity.ofText?_text (entity : AuditEntity) :
    ofText? entity.text = some entity := by
  cases entity <;> decide

@[simp] theorem AuditActor.ofText?_text (actor : AuditActor) : ofText? actor.text = some actor := by
  cases actor <;> decide

/-! ### The search -/

/-- The filters of a search; one that is left out asks for nothing. -/
structure AuditFilters where
  entityType : Option AuditEntity
  entityId : Option ℕ
  action : Option AuditAction
  actor : Option AuditActor
  deriving DecidableEq, Repr

/-- Does an entry meet every supplied filter? -/
def AuditFilters.admits (filters : AuditFilters) (entry : AuditInsert) : Bool :=
  filters.entityType.all (· = entry.entityType) && filters.entityId.all (· = entry.entityId) &&
    filters.action.all (· = entry.action) && filters.actor.all (· = entry.actor)

inductive AuditColumn
  | entityType
  | entityId
  | action
  | actor
  deriving DecidableEq, Repr

/-- A column of a row is compared to whatever the parameter decodes to; nothing
is equal to NULL. -/
def equalsDecoded {α ρ : Type} [DecidableEq α] (decode : Param → Except PgError (Option α))
    (read : ρ → α) (param : Param) : Except PgError (ρ → Bool) :=
  (decode param).map fun value row => value = some (read row)

instance auditColumns : Comparable AuditColumn AuditLogRow where
  equals
    | .entityType => equalsDecoded (decodeEnum AuditEntity.ofText?) (·.entityType)
    | .entityId => equalsDecoded decodeNumber (·.entityId)
    | .action => equalsDecoded (decodeEnum AuditAction.ofText?) (·.action)
    | .actor => equalsDecoded (decodeEnum AuditActor.ofText?) (·.actor)

/-- `ORDER BY timestamp DESC, id DESC` -/
def NewestFirst (first second : AuditLogRow) : Prop :=
  second.timestamp < first.timestamp ∨
    first.timestamp = second.timestamp ∧ second.id ≤ first.id

instance : DecidableRel NewestFirst := fun first second =>
  inferInstanceAs (Decidable (second.timestamp < first.timestamp ∨
    first.timestamp = second.timestamp ∧ second.id ≤ first.id))

instance : Std.Total NewestFirst := inferInstanceAs (Std.Total
  (LexBefore (OrderDual.toDual ∘ AuditLogRow.timestamp) (OrderDual.toDual ∘ AuditLogRow.id)))

instance : IsTrans AuditLogRow NewestFirst := inferInstanceAs (IsTrans _
  (LexBefore (OrderDual.toDual ∘ AuditLogRow.timestamp) (OrderDual.toDual ∘ AuditLogRow.id)))

theorem NewestFirst.timestamp_le {first second : AuditLogRow} (newer : NewestFirst first second) :
    second.timestamp ≤ first.timestamp := by
  rcases newer with newer | ⟨same, -⟩
  · exact newer.le
  · exact same.ge

/-- Two rows of the log are in one order only. -/
theorem eq_of_newestFirst {db : Db} {first second : AuditLogRow}
    (here : first ∈ db.auditLogs.rows) (there : second ∈ db.auditLogs.rows)
    (newer : NewestFirst first second) (older : NewestFirst second first) : first = second := by
  -- Neither can be strictly newer, so the ids decide.
  apply Table.eq_of_key_eq here there
  show first.id = second.id
  rcases newer with newer | ⟨same, le⟩
  · rcases older with older | ⟨same, -⟩
    · exact (lt_asymm newer older).elim
    · exact (newer.ne same).elim
  · rcases older with older | ⟨-, ge⟩
    · exact (older.ne same).elim
    · exact le_antisymm ge le

namespace AuditRepository

/-- The filters that are supplied, joined by `AND`. -/
def whereClause (filters : AuditFilters) : Where AuditColumn :=
  let clause := Where.start.push .entityType
    (filters.entityType.map fun entityType => .text entityType.text)
  let clause := clause.push .entityId (filters.entityId.map .number)
  let clause := clause.push .action (filters.action.map fun action => .text action.text)
  clause.push .actor (filters.actor.map fun actor => .text actor.text)

def find (filters : AuditFilters) (db : Db) : Except PgError (List AuditLogRow) :=
  ((whereClause filters).select db.auditLogs.rows).map (orderBy NewestFirst)

/-- A filter whose values all decode. -/
theorem compareOption_eq {α : Type} [DecidableEq α] {column : AuditColumn} {wrap : α → Param}
    {decode : Param → Except PgError (Option α)} {read : AuditLogRow → α} (filter : Option α)
    (compares : Comparable.equals column = equalsDecoded decode read)
    (decodes : ∀ value, decode (wrap value) = .ok (some value)) :
    Where.compareOption column (filter.map wrap) =
      .ok fun row : AuditLogRow => filter.all (· = read row) := by
  cases filter with
  | none => rfl
  | some value =>
      simp only [Option.map_some, Where.compareOption, compares, equalsDecoded, decodes]
      refine congrArg Except.ok (funext fun row => ?_)
      simp

/-- The clause of a search picks the entries that meet every supplied filter. -/
theorem whereClause_selects (filters : AuditFilters) :
    (whereClause filters).Selects
      (.ok fun row : AuditLogRow => filters.admits row.toAuditInsert) := by
  have empty : (Where.start : Where AuditColumn).Selects
      (Where.always : Except PgError (AuditLogRow → Bool)) := Where.selects_start
  have clause := (((empty.push .entityType
    (filters.entityType.map fun entityType => .text entityType.text)).push .entityId
      (filters.entityId.map .number)).push .action
        (filters.action.map fun action => .text action.text)).push .actor
          (filters.actor.map fun actor => .text actor.text)
  rw [compareOption_eq filters.entityType rfl (decodeEnum_text AuditEntity.ofText?_text),
    compareOption_eq filters.entityId rfl (fun _ => rfl),
    compareOption_eq filters.action rfl (decodeEnum_text AuditAction.ofText?_text),
    compareOption_eq filters.actor rfl (decodeEnum_text AuditActor.ofText?_text)] at clause
  simp only [Where.always_and, Where.ok_and_ok] at clause
  exact clause

/-- **A search in closed form.** It never fails. -/
theorem find_eq (filters : AuditFilters) (db : Db) :
    find filters db = .ok (orderBy NewestFirst
      (db.auditLogs.rows.filter fun row => filters.admits row.toAuditInsert)) := by
  rw [find, (whereClause_selects filters).select]
  rfl

/-- **A search in a log that has grown** finds what it has found before, in its
order, and the rows that were added. -/
theorem find_sublist (filters : AuditFilters) {before after : Db} {rows : List AuditLogRow}
    (grown : after.auditLogs.rows = before.auditLogs.rows ++ rows) :
    ∃ earlier later, find filters before = .ok earlier ∧ find filters after = .ok later ∧
      earlier.Sublist later ∧
      later.Perm (earlier ++ rows.filter fun row => filters.admits row.toAuditInsert) := by
  refine ⟨_, _, find_eq filters before, find_eq filters after, ?_, ?_⟩
  · refine orderBy_sublist ?_ fun first here second there => ?_
    · rw [grown, List.filter_append]
      exact List.sublist_append_left _ _
    · exact eq_of_newestFirst (List.mem_filter.mp here).1 (List.mem_filter.mp there).1
  · refine (List.perm_insertionSort _ _).trans ?_
    rw [grown, List.filter_append]
    exact (List.perm_insertionSort _ _).symm.append_right _

/-- The rows that a search finds are in order, each of them once. -/
theorem find_ordered {filters : AuditFilters} {db : Db} {rows : List AuditLogRow}
    (found : find filters db = .ok rows) :
    rows.Pairwise NewestFirst ∧ (rows.map (·.id)).Nodup := by
  rw [find_eq] at found
  obtain rfl := Except.ok.inj found
  refine ⟨List.pairwise_insertionSort _ _, ?_⟩
  refine ((List.perm_insertionSort _ _).map _).nodup_iff.mpr ?_
  have keys : (db.auditLogs.rows.map (·.id)).Nodup := db.auditLogs.nodup_keys
  exact keys.sublist (List.filter_sublist.map _)

end AuditRepository

end IssueFlow
