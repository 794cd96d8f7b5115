import IssueFlow.Services.Tickets
import IssueFlow.Text.Numerals

/-!
# Validation of request bodies

The decorators of the DTO classes, as conditions on bodies whose fields have the
declared types. The checks of a field that is marked `@IsOptional()` are skipped
when it is `undefined`, and also when it is `null`. How class-validator counts the
characters of a text, and what it takes for a date and for an address, are
parameters.

## Main definitions

* `ClassValidator`, `Validation.isOptional` — the checks
* `CreateTicketDto.isValid`, `UpdateTicketDto.isValid`, `UpdateProjectDto.isValid`,
  `CreateUserDto.isValid`, `UpdateUserDto.isValid` — the bodies that pass them
-/

namespace IssueFlow

open JavaScript

/-- class-validator. -/
class ClassValidator where
  /-- A length that `@Length(min, max)` accepts, and `@MinLength(min)` without a
  maximum. -/
  isLength : ℕ → Option ℕ → String → Bool
  /-- `@IsDateString()` -/
  isDateString : String → Bool
  /-- `@IsEmail()` -/
  isEmail : String → Bool

instance : DecidablePred IsNumber := fun _ => inferInstanceAs (Decidable (_ ∧ _))

namespace Validation

/-- `@IsOptional()`: neither `undefined` nor `null` is checked. -/
def isOptional {α : Type} (check : α → Bool) : Field α → Bool
  | .value given => check given
  | _ => true

/-- `@Length(min, max)` -/
def length [ClassValidator] (min max : ℕ) (text : String) : Bool :=
  ClassValidator.isLength min (some max) text

/-- `@MinLength(min)` -/
def minLength [ClassValidator] (min : ℕ) (text : String) : Bool :=
  ClassValidator.isLength min none text

/-- `@Matches(/^[a-zA-Z0-9_]+$/)` -/
def isWord (text : String) : Bool :=
  !text.isEmpty && text.toList.all fun c => c.isAlphanum || c = '_'

/-- `@IsInt()` and `@Min(min)`. -/
def isInt (min n : ℕ) : Bool := IsNumber n && min ≤ n

end Validation

open Validation

section Bodies

variable [ClassValidator]

def CreateTicketDto.isValid (dto : CreateTicketDto) : Bool :=
  length 1 255 dto.title && isInt 1 dto.projectId && isOptional (isInt 1) dto.assigneeId &&
    isOptional ClassValidator.isDateString dto.dueDate

def UpdateTicketDto.isValid (dto : UpdateTicketDto) : Bool :=
  isOptional (length 1 255) dto.title && isOptional (isInt 1) dto.assigneeId &&
    isOptional ClassValidator.isDateString dto.dueDate && isOptional (isInt 1) dto.version

def UpdateProjectDto.isValid (dto : UpdateProjectDto) : Bool :=
  isOptional (length 1 255) dto.name

def CreateUserDto.isValid (dto : CreateUserDto) : Bool :=
  length 3 64 dto.username && isWord dto.username && ClassValidator.isEmail dto.email &&
    length 1 255 dto.email && length 1 255 dto.fullName && isOptional (minLength 8) dto.password

def UpdateUserDto.isValid (dto : UpdateUserDto) : Bool :=
  isOptional (length 1 255) dto.fullName

end Bodies

/-! ### A concrete class-validator -/

namespace Sample

/-- The length of a text: a surrogate pair counts as one character, and a
variation selector is not counted. -/
def shownLength (text : String) : ℕ := text.toList.countP fun c => c ≠ '\uFE0E' && c ≠ '\uFE0F'

/-- The lengths, dates and addresses of the sample inputs. -/
scoped instance : ClassValidator where
  isLength min max text := min ≤ shownLength text && max.all (shownLength text ≤ ·)
  isDateString text := text = "1970-01-01T00:00:01Z"
  isEmail text := '@' ∈ text.toList

end Sample

end IssueFlow
