import IssueFlow.Text.JavaScript
import Mathlib.Data.List.TakeWhile

/-!
# Numerals

`String(n)` of a natural number is its decimal numeral, and `Number` reads it
back when a double can hold the number.

## Main definitions

* `IsNumber` — the natural numbers among the doubles

## Main results

* `isNumber_of_le` — safe integers are numbers
* `positiveInteger_toString` — a numeral is read back
-/

namespace IssueFlow.JavaScript

/-- `Number.MAX_SAFE_INTEGER` -/
def MAX_SAFE_INTEGER : ℕ := 2 ^ 53 - 1

/-- A natural number that is a value of type `number`. -/
def IsNumber (n : ℕ) : Prop := roundToDouble n = n ∧ (n : ℚ) < 2 ^ 1024

/-! ### Safe integers -/

theorem roundHalfEven_natCast (n : ℕ) : roundHalfEven (n : ℚ) = n := by
  simp [roundHalfEven]

/-- Below 2⁵³ the unit of the last place divides one. -/
theorem roundToDouble_of_le {n : ℕ} (safe : n ≤ MAX_SAFE_INTEGER) : roundToDouble n = n := by
  have log : Nat.log 2 n ≤ 52 := by
    by_cases zero : n = 0
    · simp [zero]
    · have below : n < 2 ^ 53 := by
        rw [MAX_SAFE_INTEGER] at safe
        omega
      exact Nat.lt_succ_iff.mp ((Nat.log_lt_iff_lt_pow (by omega) zero).mpr below)
  obtain ⟨shift, split⟩ := Nat.exists_eq_add_of_le log
  have unit : Int.log 2 (n : ℚ) - 52 = -(shift : ℤ) := by
    rw [Int.log_natCast]
    omega
  have nonzero : (2 : ℚ) ^ shift ≠ 0 := by positivity
  have scaled : (n : ℚ) / 2 ^ (-(shift : ℤ)) = (n * 2 ^ shift : ℕ) := by
    rw [zpow_neg, zpow_natCast, div_inv_eq_mul]
    push_cast
    rfl
  unfold roundToDouble
  simp only
  rw [unit, scaled, roundHalfEven_natCast, zpow_neg, zpow_natCast]
  push_cast
  rw [mul_assoc, mul_inv_cancel₀ nonzero, mul_one]

theorem isNumber_of_le {n : ℕ} (safe : n ≤ MAX_SAFE_INTEGER) : IsNumber n := by
  refine ⟨roundToDouble_of_le safe, ?_⟩
  have bound : n < 2 ^ 53 := by
    rw [MAX_SAFE_INTEGER] at safe
    omega
  calc (n : ℚ) < 2 ^ 53 := by exact_mod_cast bound
    _ ≤ 2 ^ 1024 := pow_le_pow_right₀ one_le_two (by norm_num)

/-! ### Digits -/

theorem bounds_of_isDigit {c : Char} (digit : c.isDigit) : 48 ≤ c.toNat ∧ c.toNat ≤ 57 := by
  simp only [Char.isDigit, Bool.and_eq_true, decide_eq_true_eq, UInt32.le_iff_toNat_le] at digit
  exact digit

theorem isWhiteSpace_of_isDigit {c : Char} (digit : c.isDigit) : isWhiteSpace c = false := by
  obtain ⟨lower, upper⟩ := bounds_of_isDigit digit
  simp only [isWhiteSpace, Bool.or_eq_false_iff, Bool.and_eq_false_iff, decide_eq_false_iff_not]
  omega

/-- Without white space there is nothing to trim. -/
theorem trimChars_of_forall {cs : List Char} (solid : ∀ c ∈ cs, isWhiteSpace c = false) :
    trimChars cs = cs := by
  have kept (cs : List Char) (solid : ∀ c ∈ cs, isWhiteSpace c = false) :
      cs.dropWhile isWhiteSpace = cs := by
    cases cs with
    | nil => rfl
    | cons c cs => rw [List.dropWhile_cons_of_neg (by simp [solid c List.mem_cons_self])]
  have reversed : ∀ c ∈ cs.reverse, isWhiteSpace c = false :=
    fun c member => solid c (List.mem_reverse.mp member)
  rw [trimChars, kept cs solid, kept cs.reverse reversed, List.reverse_reverse]

theorem mapM_digits {cs : List Char} (digits : ∀ c ∈ cs, c.isDigit) :
    (cs.mapM fun c => (digitOf c).filter (· < 10)) = some (cs.map fun c => c.toNat - 48) := by
  induction cs with
  | nil => rfl
  | cons c cs ih =>
      have digit := digits c List.mem_cons_self
      have small : c.toNat - 48 < 10 := by
        have bounds := bounds_of_isDigit digit
        omega
      rw [List.mapM_cons, ih fun c member => digits c (List.mem_cons_of_mem _ member), digitOf,
        if_pos digit]
      simp [Option.filter, small]

/-- A string of digits is a decimal literal without a fraction and an exponent. -/
theorem decimalLiteral_of_isDigit {cs : List Char} (nonempty : cs ≠ [])
    (digits : ∀ c ∈ cs, c.isDigit) :
    decimalLiteral cs = some ((digitsValue 10 (cs.map fun c => c.toNat - 48) : ℕ) : ℚ) := by
  have whole : cs.span Char.isDigit = (cs, []) := by
    rw [List.span_eq_takeWhile_dropWhile, List.takeWhile_eq_self_iff.mpr digits,
      List.dropWhile_eq_nil_iff.mpr digits]
  have read : digitsIn 10 cs = some (cs.map fun c => c.toNat - 48) := by
    rw [digitsIn, if_neg (by simpa using nonempty), mapM_digits digits]
  simp only [decimalLiteral, whole, List.append_nil, read, exponentPart]
  simp

theorem exactNumber_of_isDigit {text : String} (nonempty : text.toList ≠ [])
    (digits : ∀ c ∈ text.toList, c.isDigit) :
    exactNumber text =
      some ((digitsValue 10 (text.toList.map fun c => c.toNat - 48) : ℕ) : ℚ) := by
  have solid : trimChars text.toList = text.toList :=
    trimChars_of_forall fun c member => isWhiteSpace_of_isDigit (digits c member)
  have literal := decimalLiteral_of_isDigit nonempty digits
  unfold exactNumber
  rw [solid]
  generalize text.toList = cs at nonempty digits literal ⊢
  -- A second digit is no letter, so no other base is announced.
  split
  · exact absurd rfl nonempty
  all_goals try exact absurd (digits _ (List.mem_cons_of_mem _ List.mem_cons_self)) (by decide)
  -- The first digit is no sign.
  have unsigned : takeSign cs = (1, cs) := by
    unfold takeSign
    split
    · exact absurd (digits _ List.mem_cons_self) (by decide)
    · exact absurd (digits _ List.mem_cons_self) (by decide)
    · rfl
  simp [unsigned, literal]

/-! ### Numerals of natural numbers -/

theorem toList_toString (n : ℕ) : (toString n).toList = Nat.toDigits 10 n := by
  rw [Nat.toString_eq_ofList_toDigits, String.toList_ofList]

theorem isDigit_of_mem_toString {n : ℕ} : ∀ c ∈ (toString n).toList, c.isDigit := by
  intro c member
  rw [toList_toString] at member
  exact Nat.isDigit_of_mem_toDigits (by norm_num) (by norm_num) member

@[simp] theorem trim_toString (n : ℕ) : trim (toString n) = toString n := by
  have solid : ∀ c ∈ (toString n).toList, isWhiteSpace c = false :=
    fun c member => isWhiteSpace_of_isDigit (isDigit_of_mem_toString c member)
  rw [trim, trimChars_of_forall solid, String.ofList_toList]

/-- **A numeral is read back.** -/
theorem positiveInteger_toString {n : ℕ} (positive : 0 < n) (number : IsNumber n) :
    positiveInteger (toString n) = some n := by
  obtain ⟨rounded, finite⟩ := number
  have value : digitsValue 10 ((toString n).toList.map fun c => c.toNat - 48) = n := by
    rw [toList_toString, digitsValue, List.foldl_map]
    calc (Nat.toDigits 10 n).foldl (fun value c => value * 10 + (c.toNat - 48)) 0
        = Nat.ofDigitChars 10 (Nat.toDigits 10 n) 0 := by
          rw [Nat.ofDigitChars_eq_foldl]
          simp only [Nat.mul_comm]
          rfl
      _ = n := Nat.ofDigitChars_ten_toDigits
  have reads : exactNumber (toString n) = some (n : ℚ) := by
    have nonempty : (toString n).toList ≠ [] := by
      rw [toList_toString]
      exact Nat.toDigits_ne_nil
    rw [exactNumber_of_isDigit nonempty isDigit_of_mem_toString, value]
  have above : ¬(n : ℚ) ≤ 0 := by
    rw [not_le]
    exact_mod_cast positive
  have whole : (n : ℚ).den = 1 ∧ 1 ≤ (n : ℚ) ∧ (n : ℚ) < 2 ^ 1024 :=
    ⟨rfl, by exact_mod_cast positive, finite⟩
  simp only [positiveInteger, reads, above, rounded, if_false]
  rw [if_pos whole]
  rfl

end IssueFlow.JavaScript
