import IssueFlow.Database.Schema

/-!
# Reading parameters into columns

How a bound parameter becomes the value of a column of a given type. A request
field that is left out has no parameter; one that is `null` is bound as NULL
and is refused by a column that is declared `NOT NULL`.
-/

namespace IssueFlow

open Store

variable {α ρ : Type}

/-- `field !== undefined` guards the parameter of an optional field. -/
def Field.param (wrap : α → Param) : Field α → Option Param
  | .undefined => none
  | .null => some .null
  | .value given => some (wrap given)

/-- A parameter read as `VARCHAR` or `TEXT`. -/
def decodeText : Param → Except PgError (Option String)
  | .null => .ok none
  | .text value => .ok (some value)
  | .number value => .ok (some (toString value))

/-- A parameter read as `BIGINT` or `INTEGER`. -/
def decodeNumber : Param → Except PgError (Option ℕ)
  | .null => .ok none
  | .text _ => .error .invalidTextRepresentation
  | .number value => .ok (some value)

/-- A parameter read as an enumeration. -/
def decodeEnum (ofText? : String → Option α) : Param → Except PgError (Option α)
  | .null => .ok none
  | .text label =>
      match ofText? label with
      | some value => .ok (some value)
      | none => .error .invalidTextRepresentation
  | .number _ => .error .invalidTextRepresentation

/-- A parameter read as `TIMESTAMPTZ`. -/
def decodeTimestamp [Postgres] : Param → Except PgError (Option Timestamp)
  | .null => .ok none
  | .text value =>
      match Postgres.timestamptz value with
      | some instant => .ok (some instant)
      | none => .error .invalidDatetime
  | .number _ => .error .invalidDatetime

/-- Write a column that is declared `NOT NULL`. -/
def notNull (write : α → ρ) : Option α → Except PgError ρ
  | none => .error .notNullViolation
  | some value => .ok (write value)

/-- Assign a `NOT NULL` column whatever the parameter decodes to. -/
def assignNotNull (decode : Param → Except PgError (Option α)) (write : α → ρ → ρ)
    (param : Param) : Except PgError (ρ → Except PgError ρ) :=
  (decode param).map fun value row => notNull (fun value => write value row) value

/-- Assign a nullable column whatever the parameter decodes to. -/
def assignNullable (decode : Param → Except PgError (Option α)) (write : Option α → ρ → ρ)
    (param : Param) : Except PgError (ρ → Except PgError ρ) :=
  (decode param).map fun value row => .ok (write value row)

/-- The expression `version + 1`. -/
def evaluateSuccessor (version : ℕ) : Except PgError Unit :=
  if versionOverflows version then .error .numericValueOutOfRange else .ok ()

/-- A `NOT NULL` column after a request field was assigned to it. -/
def Field.assign (write : α → ρ → ρ) (field : Field α) (row : ρ) : Except PgError ρ :=
  match field with
  | .undefined => .ok row
  | .null => .error .notNullViolation
  | .value given => .ok (write given row)

/-- A nullable column after a request field was assigned to it. -/
def Field.assignNull (write : Option α → ρ → ρ) (field : Field α) (row : ρ) : ρ :=
  match field with
  | .undefined => row
  | .null => write none row
  | .value given => write (some given) row

section Assign

variable {κ : Type} [Columns κ ρ]

/-- A field bound to a `NOT NULL` column whose values all decode. -/
theorem assignOption_notNull {column : κ} {decode : Param → Except PgError (Option α)}
    {write : α → ρ → ρ} {wrap : α → Param} (field : Field α)
    (binds : ∀ param, Columns.bind column param = assignNotNull decode write param)
    (decodes : ∀ value, decode (wrap value) = .ok (some value)) (null : decode .null = .ok none) :
    Clause.assignOption column (field.param wrap) = .ok (field.assign write) := by
  cases field with
  | undefined => rfl
  | null => simp [Field.param, Clause.assignOption, binds, assignNotNull, null, Except.map,
      notNull, Field.assign, funext_iff]
  | value given => simp [Field.param, Clause.assignOption, binds, assignNotNull, decodes,
      Except.map, notNull, Field.assign, funext_iff]

/-- A field bound to a nullable column whose values all decode. -/
theorem assignOption_nullable {column : κ} {decode : Param → Except PgError (Option α)}
    {write : Option α → ρ → ρ} {wrap : α → Param} (field : Field α)
    (binds : ∀ param, Columns.bind column param = assignNullable decode write param)
    (decodes : ∀ value, decode (wrap value) = .ok (some value)) (null : decode .null = .ok none) :
    Clause.assignOption column (field.param wrap) =
      .ok (fun row => .ok (field.assignNull write row)) := by
  cases field with
  | undefined => rfl
  | null => simp [Field.param, Clause.assignOption, binds, assignNullable, null, Except.map,
      Field.assignNull]
  | value given => simp [Field.param, Clause.assignOption, binds, assignNullable, decodes,
      Except.map, Field.assignNull]

end Assign

theorem decodeEnum_text {ofText? : String → Option α} {text : α → String}
    (reads : ∀ value, ofText? (text value) = some value) (value : α) :
    decodeEnum ofText? (.text (text value)) = .ok (some value) := by
  simp [decodeEnum, reads]

end IssueFlow
