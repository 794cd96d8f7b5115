import IssueFlow.Database.Service

/-!
# The audit service and the audit diff

`AuditService.log` swallows a failing insert, so it never makes a request fail;
what it logs inside a transaction is part of that transaction instead.

## Main definitions

* `AuditService.log` — `audit.service.ts`
* `diffMetadata` — `diff-metadata.ts`
* `replayDiff` — a diff applied to the values of a row

## Main results

* `replayDiff_diffMetadata` — a diff leads from the old values to the new ones
-/

namespace IssueFlow

open Semantics

namespace AuditService

/-- Insert an entry; a failure is caught. -/
def log (input : AuditInsert) : Service Unit :=
  tryCatch (execute (.insertAudit input)) fun _ => pure ()

section Outline

variable [Postgres] {β : Type} {sends : List (Event Statement Db) → Statement → Prop}
  {ends : List (Event Statement Db) → Except Exception β → Prop}
  {events : List (Event Statement Db)}

/-- The outline of an audit entry and what follows it. -/
theorem outline_log (input : AuditInsert) (next : Unit → Service β) :
    (log input >>= next).Outline exec sends ends events ↔
      sends events (.command (.insertAudit input)) ∧ ∀ db : Db,
        (next ()).Outline exec sends ends (⟨.command (.insertAudit input), db⟩ :: events) :=
  Iff.rfl

/-- An audit entry and what follows it, executed alone. -/
theorem run_log (input : AuditInsert) (next : Unit → Service β) (db : Db) :
    (log input >>= next).run exec db = (next ()).run exec (AuditRepository.insert input db).2 :=
  rfl

end Outline

end AuditService

/-! ### Diffs -/

/-- `===` between the values of two rows that were fetched separately: dates
are objects and never the same. -/
def Value.strictEquals : Value → Value → Bool
  | .date _, _ => false
  | .ids _, _ => false
  | first, second => first = second

/-- A value that is not an object. -/
def Value.isPrimitive : Value → Bool
  | .date _ | .ids _ => false
  | _ => true

theorem Value.strictEquals_eq {first : Value} (second : Value)
    (primitive : first.isPrimitive = true) :
    first.strictEquals second = decide (first = second) := by
  cases first with
  | date | ids => cases primitive
  | _ => rfl

theorem Value.isPrimitive_ofOption {α : Type} {wrap : α → Value} (value : Option α)
    (primitive : ∀ value, (wrap value).isPrimitive = true) :
    (Value.ofOption wrap value).isPrimitive = true := by
  cases value with
  | none => rfl
  | some value => exact primitive value

/-- A `BIGINT` column of a row, which the driver returns as a text. -/
def Value.bigint (value : ℕ) : Value := .text (toString value)

/-- The fields that differ between two rows, each with its two values. -/
def diffMetadata {ρ : Type} (before after : ρ) (fields : List (String × (ρ → Value))) : Metadata :=
  fields.filterMap fun (name, read) =>
    if (read before).strictEquals (read after) then none
    else some (name, .change (read before) (read after))

section Replay

variable {ρ : Type} {fields : List (String × (ρ → Value))} {before after : ρ}

/-- The values of a row. -/
def fieldValues (fields : List (String × (ρ → Value))) (row : ρ) : List (String × Value) :=
  fields.map fun field => (field.1, field.2 row)

/-- Make the changes that a diff tells of. -/
def replayDiff (values : List (String × Value)) (diff : Metadata) : List (String × Value) :=
  values.map fun (name, value) =>
    match diff.lookup name with
    | some (.change _ changed) => (name, changed)
    | _ => (name, value)

/-- `===` is equality on the values of these fields. -/
def Faithful (fields : List (String × (ρ → Value))) : Prop :=
  ∀ field ∈ fields, ∀ first second : ρ,
    (field.2 first).strictEquals (field.2 second) = decide (field.2 first = field.2 second)

theorem mem_diffMetadata {name : String} {detail : MetadataField} :
    (name, detail) ∈ diffMetadata before after fields ↔
      ∃ read, (name, read) ∈ fields ∧ (read before).strictEquals (read after) = false ∧
        detail = .change (read before) (read after) := by
  simp only [diffMetadata, List.mem_filterMap, Prod.exists, Option.ite_none_left_eq_some,
    Option.some.injEq, Prod.mk.injEq, Bool.not_eq_true]
  constructor
  · rintro ⟨_, read, member, changed, rfl, rfl⟩
    exact ⟨read, member, changed, rfl⟩
  · rintro ⟨read, member, changed, rfl⟩
    exact ⟨name, read, member, changed, rfl, rfl⟩

/-- A diff only depends on the values of the rows. -/
theorem diffMetadata_congr {before' : ρ}
    (same : fieldValues fields before' = fieldValues fields before) :
    diffMetadata before' after fields = diffMetadata before after fields := by
  apply List.filterMap_congr
  rintro ⟨name, read⟩ member
  have equal : read before' = read before := (Prod.mk.inj (List.map_inj_left.mp same _ member)).2
  simp only [equal]

theorem diffMetadata_cons (field : String × (ρ → Value)) :
    diffMetadata before after (field :: fields) =
      if (field.2 before).strictEquals (field.2 after) then diffMetadata before after fields
      else (field.1, .change (field.2 before) (field.2 after)) ::
        diffMetadata before after fields := by
  obtain ⟨name, read⟩ := field
  rw [diffMetadata, List.filterMap_cons]
  simp only
  split_ifs <;> rfl

/-- A diff says nothing about other fields. -/
theorem lookup_diffMetadata_of_notMem {name : String} (other : name ∉ fields.map Prod.fst) :
    (diffMetadata before after fields).lookup name = none := by
  refine List.lookup_eq_none_iff.mpr ?_
  rintro ⟨changed, detail⟩ member
  obtain ⟨read, member, -, -⟩ := mem_diffMetadata.mp member
  rw [bne_iff_ne]
  rintro rfl
  exact other (List.mem_map_of_mem member)

/-- What a diff says about a field. -/
theorem lookup_diffMetadata (distinct : (fields.map Prod.fst).Nodup) {name : String}
    {read : ρ → Value} (member : (name, read) ∈ fields) :
    (diffMetadata before after fields).lookup name =
      if (read before).strictEquals (read after) then none
      else some (.change (read before) (read after)) := by
  induction fields with
  | nil => cases member
  | cons field fields ih =>
      obtain ⟨fresh, distinct⟩ := List.nodup_cons.mp distinct
      rw [diffMetadata_cons]
      rcases List.mem_cons.mp member with rfl | later
      · split_ifs
        · exact lookup_diffMetadata_of_notMem fresh
        · exact List.lookup_cons_self
      · have different : name ≠ field.1 := by
          intro same
          exact fresh (List.mem_map.mpr ⟨(name, read), later, same⟩)
        rw [← ih distinct later]
        split_ifs
        · rfl
        · rw [List.lookup_cons, beq_false_of_ne different]

/-- **A diff replayed on the old values gives the new ones.** -/
theorem replayDiff_diffMetadata (distinct : (fields.map Prod.fst).Nodup)
    (faithful : Faithful fields) :
    replayDiff (fieldValues fields before) (diffMetadata before after fields) =
      fieldValues fields after := by
  rw [replayDiff, fieldValues, List.map_map]
  apply List.map_congr_left
  rintro ⟨name, read⟩ member
  simp only [Function.comp_apply, lookup_diffMetadata distinct member, faithful _ member]
  split_ifs with same
  · rw [of_decide_eq_true same]
  · rfl

end Replay

end IssueFlow
