import IssueFlow.Text.JavaScript
import IssueFlow.Text.Pattern

/-!
# The lifetime of a token

`JWT_EXPIRES_IN` is read twice: `auth.service.ts` reads it for the answer to a
login, and `auth.module.ts` has a parser of its own for the signature. Seconds
are doubles, and `none` stands for infinity.
-/

namespace IssueFlow

open Text JavaScript

/-- `/^\d+$/` -/
def integerPattern : Pattern Char := .some Char.isDigit

/-- The class `[smhd]` under the flag `i`, which folds nothing beyond ASCII into it. -/
def isUnitChar (c : Char) : Bool := c ∈ ['s', 'S', 'm', 'M', 'h', 'H', 'd', 'D']

/-- `/^(\d+)\s*([smhd])$/i` -/
def lifetimePattern : Pattern Char :=
  .seq (.group (.some Char.isDigit)) (.seq (.many isWhiteSpace) (.group (.one isUnitChar)))

namespace AuthService

/-- The captures are `match[1]` and `match[2]`. -/
def parseExpiresIn (raw : String) : Option ℕ :=
  let trimmed := trim raw
  if integerPattern.test trimmed.toList then number trimmed
  else
    match lifetimePattern.exec trimmed.toList with
    | none => some 3600
    | some captures =>
        let value := number (String.ofList (captures.getD 0 []))
        match (captures.getD 1 []).map Char.toLower with
        | ['s'] => value
        | ['m'] => times value 60
        | ['h'] => times value 3600
        | ['d'] => times value 86400
        | _ => some 3600

/-- What the constructor keeps and a login returns. -/
def expiresInSeconds (setting : Option String) : Option ℕ := parseExpiresIn (setting.getD "3600")

end AuthService

namespace AuthModule

/-- `signOptions.expiresIn`, from the parser inside `useFactory`. -/
def expiresIn (setting : Option String) : Option ℕ :=
  let raw := trim (setting.getD "3600")
  if integerPattern.test raw.toList then number raw
  else
    match lifetimePattern.exec raw.toList with
    | some m =>
        let v := number (String.ofList (m.getD 0 []))
        let unit := (m.getD 1 []).map Char.toLower
        if unit = ['s'] then v
        else if unit = ['m'] then times v 60
        else if unit = ['h'] then times v 3600
        else times v 86400
    | none => some 3600

end AuthModule

end IssueFlow
