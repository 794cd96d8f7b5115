import IssueFlow.Services.TokenLifetime
import IssueFlow.Text.Doubles

/-!
# The advertised lifetime is the signed one

A lifetime is written as a number of seconds, or as a number and a unit. The
reference says which number and which unit a text stands for, as natural
numbers. Both parsers multiply doubles, so that a lifetime is the product itself
as long as it is a safe integer, and a rounded product beyond.

## Main definitions

* `IsLifetime` — a text that is written as a lifetime
* `ReadsLifetime` — the number and the unit a text stands for, one hour for any other

## Main results

* `accepts_lifetimePattern_iff` — the texts with a unit, and their captures
* `parseExpiresIn_of_reads`, `expiresIn_of_reads` — each parser computes what the text stands for
* `advertisedLifetime_signed` — both parsers, on every setting
-/

namespace IssueFlow

open Text JavaScript

/-! ### The reference -/

/-- The units, in seconds. -/
def lifetimeUnits : List (Char × ℕ) :=
  [('s', 1), ('S', 1), ('m', 60), ('M', 60), ('h', 3600), ('H', 3600), ('d', 86400), ('D', 86400)]

/-- A nonempty run of decimal digits. -/
def IsDigits (cs : List Char) : Prop := cs ≠ [] ∧ ∀ c ∈ cs, c.isDigit

/-- The natural number that is written with some digits. -/
def decimalValue (digits : List Char) : ℕ := digitsValue 10 (digits.map fun c => c.toNat - 48)

/-- A text that is written as a lifetime: a number, and its unit in seconds. -/
inductive IsLifetime : List Char → ℕ → ℕ → Prop
  | seconds {digits : List Char} (number : IsDigits digits) :
      IsLifetime digits (decimalValue digits) 1
  | unit {digits space : List Char} {c : Char} {k : ℕ} (number : IsDigits digits)
      (blank : ∀ c ∈ space, isWhiteSpace c) (listed : (c, k) ∈ lifetimeUnits) :
      IsLifetime (digits ++ (space ++ [c])) (decimalValue digits) k

/-- What a text stands for: one hour, unless it is written as a lifetime. -/
inductive ReadsLifetime (cs : List Char) : ℕ → ℕ → Prop
  | written {n k : ℕ} (lifetime : IsLifetime cs n k) : ReadsLifetime cs n k
  | other (none : ∀ n k, ¬ IsLifetime cs n k) : ReadsLifetime cs 3600 1

theorem exists_readsLifetime (cs : List Char) : ∃ n k, ReadsLifetime cs n k := by
  by_cases lifetime : ∃ n k, IsLifetime cs n k
  · obtain ⟨n, k, lifetime⟩ := lifetime
    exact ⟨n, k, .written lifetime⟩
  · exact ⟨3600, 1, .other fun n k written => lifetime ⟨n, k, written⟩⟩

/-! ### The patterns -/

theorem isUnitChar_iff {c : Char} : isUnitChar c ↔ ∃ k, (c, k) ∈ lifetimeUnits := by
  simp [isUnitChar, lifetimeUnits, exists_or]

/-- A unit is no digit and no white space. -/
theorem solid_of_listed {c : Char} {k : ℕ} (listed : (c, k) ∈ lifetimeUnits) :
    c.isDigit = false ∧ isWhiteSpace c = false ∧ 0 < k := by
  have all : ∀ entry ∈ lifetimeUnits,
      entry.1.isDigit = false ∧ isWhiteSpace entry.1 = false ∧ 0 < entry.2 := by decide
  exact all (c, k) listed

/-- The units in lower case. -/
theorem toLower_of_listed {c : Char} {k : ℕ} (listed : (c, k) ∈ lifetimeUnits) :
    (c.toLower = 's' ∧ k = 1) ∨ (c.toLower = 'm' ∧ k = 60) ∨ (c.toLower = 'h' ∧ k = 3600) ∨
      (c.toLower = 'd' ∧ k = 86400) := by
  have all : ∀ entry ∈ lifetimeUnits,
      (entry.1.toLower = 's' ∧ entry.2 = 1) ∨ (entry.1.toLower = 'm' ∧ entry.2 = 60) ∨
        (entry.1.toLower = 'h' ∧ entry.2 = 3600) ∨
          (entry.1.toLower = 'd' ∧ entry.2 = 86400) := by decide
  exact all (c, k) listed

/-- **The texts with a unit**, and what is captured of them. -/
theorem accepts_lifetimePattern_iff {cs : List Char} {captures : List (List Char)} :
    lifetimePattern.Accepts cs captures ↔ ∃ digits space c, cs = digits ++ (space ++ [c]) ∧
      IsDigits digits ∧ (∀ c ∈ space, isWhiteSpace c) ∧ isUnitChar c ∧
        captures = [digits, [c]] := by
  constructor
  · rintro ⟨digits, _, _, _, rfl, rfl, ⟨_, rfl, accepted⟩, space, _, _, _, rfl, rfl, ⟨rfl, blank⟩,
      _, rfl, rfl, c, unit, rfl⟩
    obtain ⟨rfl, number⟩ := Pattern.accepts_some_iff.mp accepted
    exact ⟨digits, space, c, rfl, number, blank, unit, rfl⟩
  · rintro ⟨digits, space, c, rfl, number, blank, unit, rfl⟩
    exact ⟨digits, space ++ [c], [digits], [[c]], rfl, rfl,
      ⟨[], rfl, Pattern.accepts_some_iff.mpr ⟨rfl, number⟩⟩,
      space, [c], [], [[c]], rfl, rfl, ⟨rfl, blank⟩, [], rfl, rfl, c, unit, rfl⟩

/-- The digits of a text with a unit are those it starts with. -/
theorem takeWhile_isDigit {digits space : List Char} {c : Char} (number : IsDigits digits)
    (blank : ∀ c ∈ space, isWhiteSpace c) (unit : c.isDigit = false) :
    (digits ++ (space ++ [c])).takeWhile Char.isDigit = digits := by
  have stops : (space ++ [c]).takeWhile Char.isDigit = [] := by
    cases space with
    | nil => simp [unit]
    | cons first space =>
        have solid : first.isDigit = false := by
          by_contra digit
          have visible := isWhiteSpace_of_isDigit (Bool.not_eq_false _ ▸ digit)
          rw [blank first List.mem_cons_self] at visible
          cases visible
        simp [solid]
  rw [List.takeWhile_append_of_pos number.2, stops, List.append_nil]

theorem exec_lifetimePattern {digits space : List Char} {c : Char} {k : ℕ}
    (number : IsDigits digits) (blank : ∀ c ∈ space, isWhiteSpace c)
    (listed : (c, k) ∈ lifetimeUnits) :
    lifetimePattern.exec (digits ++ (space ++ [c])) = some [digits, [c]] := by
  apply Pattern.exec_eq_some_of_unique
  · exact accepts_lifetimePattern_iff.mpr
      ⟨digits, space, c, rfl, number, blank, isUnitChar_iff.mpr ⟨k, listed⟩, rfl⟩
  · intro other accepts
    obtain ⟨digits', space', c', split, number', blank', unit, rfl⟩ :=
      accepts_lifetimePattern_iff.mp accepts
    obtain ⟨k', listed'⟩ := isUnitChar_iff.mp unit
    have sameDigits : digits = digits' := calc
      digits = (digits ++ (space ++ [c])).takeWhile Char.isDigit :=
        (takeWhile_isDigit number blank (solid_of_listed listed).1).symm
      _ = digits' := by rw [split, takeWhile_isDigit number' blank' (solid_of_listed listed').1]
    have sameUnit : c = c' := by simpa using congrArg List.getLast? split
    rw [sameDigits, sameUnit]

/-- **What the two expressions find** in a text, by what it stands for. -/
theorem ReadsLifetime.matches {text : String} {n k : ℕ} (reads : ReadsLifetime text.toList n k) :
    (integerPattern.test text.toList = true ∧ number text = toDouble n ∧ k = 1) ∨
    (integerPattern.test text.toList = false ∧ ∃ digits c,
      lifetimePattern.exec text.toList = some [digits, [c]] ∧
        number (String.ofList digits) = toDouble n ∧ (c, k) ∈ lifetimeUnits) ∨
    (integerPattern.test text.toList = false ∧ lifetimePattern.exec text.toList = none ∧
      n = 3600 ∧ k = 1) := by
  cases reads with
  | written lifetime =>
      generalize split : text.toList = cs at lifetime ⊢
      cases lifetime with
      | seconds digits =>
          refine Or.inl ⟨Pattern.test_some_iff.mpr digits, ?_, rfl⟩
          rw [← String.ofList_toList (s := text), split, number_of_isDigit digits.1 digits.2,
            decimalValue]
      | @unit digits space c k digitsOnly blank listed =>
          refine Or.inr (Or.inl ⟨?_, digits, c, exec_lifetimePattern digitsOnly blank listed,
            number_of_isDigit digitsOnly.1 digitsOnly.2, listed⟩)
          -- The unit is no digit.
          rw [← Bool.not_eq_true, integerPattern, Pattern.test_some_iff]
          rintro ⟨-, all⟩
          have digit := all c (by simp)
          rw [(solid_of_listed listed).1] at digit
          cases digit
  | other none =>
      refine Or.inr (Or.inr ⟨?_, ?_, rfl, rfl⟩)
      · rw [← Bool.not_eq_true, integerPattern, Pattern.test_some_iff]
        exact fun digits => none _ _ (.seconds digits)
      · rw [Pattern.exec_eq_none_iff]
        intro captures accepts
        obtain ⟨digits, space, c, split, digitsOnly, blank, unit, -⟩ :=
          accepts_lifetimePattern_iff.mp accepts
        obtain ⟨k, listed⟩ := isUnitChar_iff.mp unit
        apply none (decimalValue digits) k
        rw [split]
        exact .unit digitsOnly blank listed

theorem ReadsLifetime.unit_pos {cs : List Char} {n k : ℕ} (reads : ReadsLifetime cs n k) :
    0 < k := by
  cases reads with
  | other => exact one_pos
  | written lifetime =>
      cases lifetime with
      | seconds => exact one_pos
      | unit _ _ listed => exact (solid_of_listed listed).2.2

/-! ### The parsers -/

theorem lifetime_default : times (toDouble 3600) 1 = some 3600 :=
  times_toDouble_of_le one_pos (by decide)

theorem parseExpiresIn_of_reads {raw : String} {n k : ℕ}
    (reads : ReadsLifetime (trim raw).toList n k) :
    AuthService.parseExpiresIn raw = times (toDouble n) k := by
  unfold AuthService.parseExpiresIn
  rcases reads.matches with ⟨digits, read, rfl⟩ | ⟨mixed, digits, c, found, read, listed⟩ |
    ⟨mixed, missed, rfl, rfl⟩
  · simp only [digits, read, if_true, times_toDouble_one]
  · simp only [mixed, found, Bool.false_eq_true, if_false, List.getD_cons_zero,
      List.getD_cons_succ, read]
    rcases toLower_of_listed listed with ⟨lower, rfl⟩ | ⟨lower, rfl⟩ | ⟨lower, rfl⟩ | ⟨lower, rfl⟩
    all_goals simp [lower]
  · simp only [mixed, missed, Bool.false_eq_true, if_false, lifetime_default]

theorem expiresIn_of_reads {setting : Option String} {n k : ℕ}
    (reads : ReadsLifetime (trim (setting.getD "3600")).toList n k) :
    AuthModule.expiresIn setting = times (toDouble n) k := by
  unfold AuthModule.expiresIn
  rcases reads.matches with ⟨digits, read, rfl⟩ | ⟨mixed, digits, c, found, read, listed⟩ |
    ⟨mixed, missed, rfl, rfl⟩
  · simp only [digits, read, if_true, times_toDouble_one]
  · simp only [mixed, found, Bool.false_eq_true, if_false, List.getD_cons_zero,
      List.getD_cons_succ, read]
    rcases toLower_of_listed listed with ⟨lower, rfl⟩ | ⟨lower, rfl⟩ | ⟨lower, rfl⟩ | ⟨lower, rfl⟩
    all_goals simp [lower]
  · simp only [mixed, missed, Bool.false_eq_true, if_false, lifetime_default]

/-- **The advertised lifetime of a token is the signed one**, on every setting,
and it is the lifetime the setting stands for: its number times its unit, as
doubles, and exactly so as long as the product is a safe integer. -/
theorem advertisedLifetime_signed (setting : Option String) :
    AuthService.expiresInSeconds setting = AuthModule.expiresIn setting ∧
      (∃ n k, ReadsLifetime (trim (setting.getD "3600")).toList n k) ∧
      ∀ n k, ReadsLifetime (trim (setting.getD "3600")).toList n k →
        AuthModule.expiresIn setting = times (toDouble n) k ∧
          (n * k ≤ MAX_SAFE_INTEGER → AuthModule.expiresIn setting = some (n * k)) := by
  obtain ⟨n, k, reads⟩ := exists_readsLifetime (trim (setting.getD "3600")).toList
  refine ⟨?_, ⟨n, k, reads⟩, ?_⟩
  · rw [AuthService.expiresInSeconds, parseExpiresIn_of_reads reads, expiresIn_of_reads reads]
  · intro n k reads
    refine ⟨expiresIn_of_reads reads, fun safe => ?_⟩
    rw [expiresIn_of_reads reads, times_toDouble_of_le reads.unit_pos safe]

end IssueFlow
