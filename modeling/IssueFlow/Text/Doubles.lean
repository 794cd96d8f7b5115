import IssueFlow.Text.Numerals

/-!
# Natural numbers as doubles

A double has 53 significant bits. Up to 2⁵³ every natural number is one; above,
a natural number is rounded to a multiple of a power of two, and half way to
the even one of the two multiples next to it. Rounding does not cross powers of
two, and it reaches one from below at half a unit's distance.

## Main results

* `roundHalfEven_lt_iff` — which numbers are rounded below an even integer
* `nearestNumber_eq` — a natural number of a certain magnitude, rounded
* `nearestNumber_lt_iff` — which natural numbers are rounded below a power of two
* `nearestNumber_nearestNumber` — rounding twice is rounding once
* `nearestNumber_pred` — beyond 2⁵⁴, subtracting one changes nothing
* `times_toDouble_of_le` — products of safe integers are exact
-/

namespace IssueFlow.JavaScript

/-! ### Rounding to integers -/

variable {q : ℚ} {m : ℤ}

theorem floor_le_roundHalfEven (q : ℚ) : ⌊q⌋ ≤ roundHalfEven q := by
  unfold roundHalfEven
  simp only
  split_ifs <;> omega

theorem roundHalfEven_le_floor_add_one (q : ℚ) : roundHalfEven q ≤ ⌊q⌋ + 1 := by
  unfold roundHalfEven
  simp only
  split_ifs <;> omega

theorem le_roundHalfEven (below : (m : ℚ) ≤ q) : m ≤ roundHalfEven q :=
  (Int.le_floor.mpr below).trans (floor_le_roundHalfEven q)

/-- **Which numbers are rounded below an even integer**: half way is not enough. -/
theorem roundHalfEven_lt_iff (even : m % 2 = 0) : roundHalfEven q < m ↔ q < m - 1 / 2 := by
  have lower := Int.floor_le q
  have upper := Int.lt_floor_add_one q
  rcases lt_trichotomy ⌊q⌋ (m - 1) with less | same | greater
  · have far : (⌊q⌋ : ℚ) + 1 ≤ m - 1 := by exact_mod_cast (show ⌊q⌋ + 1 ≤ m - 1 by omega)
    have rounded := roundHalfEven_le_floor_add_one q
    exact iff_of_true (by omega) (by linarith)
  · -- The floor is odd, so the middle is rounded up to `m`.
    have floor : (⌊q⌋ : ℚ) = m - 1 := by exact_mod_cast same
    unfold roundHalfEven
    simp only
    split_ifs with low high parity
    · exact iff_of_true (by omega) (by linarith)
    · exact iff_of_false (by omega) (by linarith)
    · omega
    · exact iff_of_false (by omega) (by linarith)
  · have reached : (m : ℚ) ≤ ⌊q⌋ := by exact_mod_cast (show m ≤ ⌊q⌋ by omega)
    have rounded := floor_le_roundHalfEven q
    exact iff_of_false (by omega) (by linarith)

variable {n k : ℕ}

/-- **A natural number of a certain magnitude**, rounded to a multiple of 2ᵏ. -/
theorem nearestNumber_eq (lower : 2 ^ (52 + k) ≤ n) (upper : n < 2 ^ (53 + k)) :
    (nearestNumber n : ℤ) = roundHalfEven ((n : ℚ) / 2 ^ k) * 2 ^ k := by
  have positive : 0 < n := (Nat.two_pow_pos _).trans_le lower
  have log : Nat.log 2 n = 52 + k := by
    apply Nat.log_eq_of_pow_le_of_lt_pow lower
    rwa [show 52 + k + 1 = 53 + k by omega]
  have unit : (2 : ℚ) ^ (Int.log 2 (n : ℚ) - 52) = ((2 ^ k : ℕ) : ℚ) := by
    rw [Int.log_natCast, log]
    push_cast
    rw [add_sub_cancel_left, zpow_natCast]
  have rounded : roundToDouble n = ((roundHalfEven ((n : ℚ) / 2 ^ k) * 2 ^ k : ℤ) : ℚ) := by
    unfold roundToDouble
    simp only [unit]
    push_cast
    rfl
  have nonneg : 0 ≤ roundHalfEven ((n : ℚ) / 2 ^ k) := by
    apply le_roundHalfEven
    push_cast
    positivity
  rw [nearestNumber, rounded, Rat.num_intCast, Int.toNat_of_nonneg (by positivity)]

theorem nearestNumber_of_lt (small : n < 2 ^ 53) : nearestNumber n = n := by
  rw [nearestNumber, roundToDouble_of_le (by rw [MAX_SAFE_INTEGER]; omega), Rat.num_natCast,
    Int.toNat_natCast]

/-- Every magnitude above the safe integers has its unit. -/
theorem exists_magnitude (large : 2 ^ 53 ≤ n) : ∃ k, 2 ^ (52 + k) ≤ n ∧ n < 2 ^ (53 + k) := by
  have nonzero : n ≠ 0 := by
    have positive : 0 < 2 ^ 53 := by norm_num
    omega
  have log : 53 ≤ Nat.log 2 n := (Nat.le_log_iff_pow_le (by norm_num) nonzero).mpr large
  obtain ⟨k, split⟩ := Nat.exists_eq_add_of_le ((show 52 ≤ 53 by norm_num).trans log)
  refine ⟨k, ?_, ?_⟩
  · rw [← split]
    exact Nat.pow_log_le_self 2 nonzero
  · rw [show 53 + k = Nat.log 2 n + 1 by omega]
    exact Nat.lt_pow_succ_log_self (by norm_num) n

theorem cast_two_pow_mul (e k : ℕ) :
    (((2 : ℤ) ^ e : ℤ) : ℚ) * 2 ^ k = ((2 ^ (e + k) : ℕ) : ℚ) := by
  rw [pow_add]
  push_cast
  rfl

/-- What a natural number is rounded to: 53 significant bits, or the next power
of two. -/
theorem exists_significand (lower : 2 ^ (52 + k) ≤ n) (upper : n < 2 ^ (53 + k)) :
    ∃ m, 2 ^ 52 ≤ m ∧ m ≤ 2 ^ 53 ∧ nearestNumber n = m * 2 ^ k := by
  have least : (2 ^ 52 : ℤ) ≤ roundHalfEven ((n : ℚ) / 2 ^ k) := by
    apply le_roundHalfEven
    rw [le_div_iff₀ (by positivity), cast_two_pow_mul]
    exact_mod_cast lower
  have greatest : roundHalfEven ((n : ℚ) / 2 ^ k) ≤ 2 ^ 53 := by
    have floor : ⌊(n : ℚ) / 2 ^ k⌋ < 2 ^ 53 := by
      rw [Int.floor_lt, div_lt_iff₀ (by positivity), cast_two_pow_mul]
      exact_mod_cast upper
    have rounded := roundHalfEven_le_floor_add_one ((n : ℚ) / 2 ^ k)
    omega
  have rounded := nearestNumber_eq lower upper
  obtain ⟨m, significand⟩ := Int.eq_ofNat_of_zero_le (le_trans (by norm_num) least)
  rw [significand] at least greatest rounded
  exact ⟨m, by exact_mod_cast least, by exact_mod_cast greatest, by exact_mod_cast rounded⟩

/-- A number of 53 significant bits is a double. -/
theorem nearestNumber_of_significand {m : ℕ} (lower : 2 ^ 52 ≤ m) (upper : m < 2 ^ 53) :
    nearestNumber (m * 2 ^ k) = m * 2 ^ k := by
  have unit : 0 < 2 ^ k := Nat.two_pow_pos k
  have rounded := nearestNumber_eq (n := m * 2 ^ k) (k := k)
    (by rw [pow_add]; exact Nat.mul_le_mul_right _ lower)
    (by rw [pow_add]; exact Nat.mul_lt_mul_of_pos_right upper unit)
  have scaled : ((m * 2 ^ k : ℕ) : ℚ) / 2 ^ k = m := by
    push_cast
    exact mul_div_cancel_right₀ _ (by positivity)
  rw [scaled, roundHalfEven_natCast] at rounded
  exact_mod_cast rounded

/-- **Rounding twice is rounding once.** -/
theorem nearestNumber_nearestNumber (n : ℕ) :
    nearestNumber (nearestNumber n) = nearestNumber n := by
  rcases lt_or_ge n (2 ^ 53) with small | large
  · rw [nearestNumber_of_lt small, nearestNumber_of_lt small]
  · obtain ⟨k, lower, upper⟩ := exists_magnitude large
    obtain ⟨m, least, greatest, rounded⟩ := exists_significand lower upper
    rw [rounded]
    rcases greatest.lt_or_eq with less | rfl
    · exact nearestNumber_of_significand least less
    · -- The next power of two has a greater unit.
      have double : 2 ^ 53 * 2 ^ k = 2 ^ 52 * 2 ^ (k + 1) := by
        rw [← pow_add, ← pow_add]
        congr 1
        omega
      rw [double]
      exact nearestNumber_of_significand le_rfl (by norm_num)

/-! ### Powers of two -/

theorem two_pow_le_nearestNumber {j : ℕ} (le : 2 ^ j ≤ n) : 2 ^ j ≤ nearestNumber n := by
  rcases lt_or_ge n (2 ^ 53) with small | large
  · rwa [nearestNumber_of_lt small]
  · obtain ⟨k, lower, upper⟩ := exists_magnitude large
    obtain ⟨m, least, -, rounded⟩ := exists_significand lower upper
    have magnitude : j ≤ 52 + k := by
      have exponent := (Nat.pow_lt_pow_iff_right (by norm_num)).mp (le.trans_lt upper)
      omega
    calc 2 ^ j ≤ 2 ^ (52 + k) := Nat.pow_le_pow_right (by norm_num) magnitude
      _ = 2 ^ 52 * 2 ^ k := pow_add ..
      _ ≤ m * 2 ^ k := Nat.mul_le_mul_right _ least
      _ = nearestNumber n := rounded.symm

theorem nearestNumber_le_two_pow {j : ℕ} (lt : n < 2 ^ j) : nearestNumber n ≤ 2 ^ j := by
  rcases lt_or_ge n (2 ^ 53) with small | large
  · rw [nearestNumber_of_lt small]
    exact lt.le
  · obtain ⟨k, lower, upper⟩ := exists_magnitude large
    obtain ⟨m, -, greatest, rounded⟩ := exists_significand lower upper
    have magnitude : 53 + k ≤ j := by
      have exponent := (Nat.pow_lt_pow_iff_right (by norm_num)).mp (lower.trans_lt lt)
      omega
    calc nearestNumber n = m * 2 ^ k := rounded
      _ ≤ 2 ^ 53 * 2 ^ k := Nat.mul_le_mul_right _ greatest
      _ = 2 ^ (53 + k) := (pow_add ..).symm
      _ ≤ 2 ^ j := Nat.pow_le_pow_right (by norm_num) magnitude

/-- **Which natural numbers are rounded below a power of two**: the unit is
2ⁱ⁺¹, and from half a unit below the power on they are not. -/
theorem nearestNumber_lt_iff (n i : ℕ) :
    nearestNumber n < 2 ^ (54 + i) ↔ n + 2 ^ i < 2 ^ (54 + i) := by
  have half : 2 ^ (54 + i) = 2 ^ (53 + i) + 2 ^ (53 + i) := by
    rw [show 54 + i = 53 + i + 1 by omega, pow_succ]
    omega
  have unit : 2 ^ i ≤ 2 ^ (53 + i) := Nat.pow_le_pow_right (by norm_num) (by omega)
  have positive : 0 < 2 ^ i := Nat.two_pow_pos i
  rcases lt_or_ge n (2 ^ (53 + i)) with low | high
  · -- Below half the power nothing is rounded that far.
    have bounded := nearestNumber_le_two_pow low
    exact iff_of_true (by omega) (by omega)
  rcases lt_or_ge n (2 ^ (54 + i)) with below | above
  · -- Between the two powers the unit is 2ⁱ⁺¹.
    have shift : 52 + (i + 1) = 53 + i ∧ 53 + (i + 1) = 54 + i := by omega
    have rounded := nearestNumber_eq (n := n) (k := i + 1) (shift.1 ▸ high) (shift.2 ▸ below)
    have power : (2 : ℚ) ^ (54 + i) = 2 ^ 53 * (2 * 2 ^ i) := by
      rw [← pow_succ', ← pow_add, shift.2]
    have scaled : (n : ℚ) / 2 ^ (i + 1) < ((2 ^ 53 : ℤ) : ℚ) - 1 / 2 ↔
        n + 2 ^ i < 2 ^ (54 + i) := by
      rw [div_lt_iff₀ (by positivity), ← Nat.cast_lt (α := ℚ)]
      push_cast
      rw [power, pow_succ']
      constructor <;> intro less <;> linarith
    have exact : nearestNumber n < 2 ^ (54 + i) ↔
        roundHalfEven ((n : ℚ) / 2 ^ (i + 1)) < 2 ^ 53 := by
      have unit : (0 : ℤ) < 2 ^ (i + 1) := by positivity
      have scale : ((2 ^ (54 + i) : ℕ) : ℤ) = 2 ^ 53 * 2 ^ (i + 1) := by
        rw [← shift.2, pow_add]
        push_cast
        rfl
      rw [← Nat.cast_lt (α := ℤ), rounded, scale]
      exact mul_lt_mul_iff_left₀ unit
    rw [exact, roundHalfEven_lt_iff (by norm_num), scaled]
  · have reached := two_pow_le_nearestNumber above
    exact iff_of_false (by omega) (by omega)

theorem toDouble_of_le (safe : n ≤ MAX_SAFE_INTEGER) : toDouble n = some n := by
  have small : n < 2 ^ 53 := by
    rw [MAX_SAFE_INTEGER] at safe
    omega
  have finite : n < 2 ^ 1024 := calc
    n < 2 ^ 53 := small
    _ ≤ 2 ^ 1024 := pow_le_pow_right₀ one_le_two (by norm_num)
  rw [toDouble, nearestNumber_of_lt small, if_pos finite]

/-- **Products of safe integers are exact.** -/
theorem times_toDouble_of_le (positive : 0 < k) (safe : n * k ≤ MAX_SAFE_INTEGER) :
    times (toDouble n) k = some (n * k) := by
  rw [toDouble_of_le ((Nat.le_mul_of_pos_right n positive).trans safe), times, Option.bind_some,
    toDouble_of_le safe]

/-- A double times one is rounded to itself. -/
@[simp] theorem times_toDouble_one (n : ℕ) : times (toDouble n) 1 = toDouble n := by
  by_cases finite : nearestNumber n < 2 ^ 1024
  · have rounded : toDouble n = some (nearestNumber n) := if_pos finite
    rw [rounded, times, Option.bind_some, mul_one, toDouble, nearestNumber_nearestNumber,
      if_pos finite]
  · have infinite : toDouble n = none := if_neg finite
    rw [infinite, times, Option.bind_none]

theorem number_of_isDigit {digits : List Char} (nonempty : digits ≠ [])
    (all : ∀ c ∈ digits, c.isDigit) :
    number (String.ofList digits) =
      toDouble (digitsValue 10 (digits.map fun c => c.toNat - 48)) := by
  have read : exactNumber (String.ofList digits) = _ :=
    exactNumber_of_isDigit (by rwa [String.toList_ofList]) (by rwa [String.toList_ofList])
  rw [number, read, String.toList_ofList, Option.bind_some, Rat.num_natCast, Int.toNat_natCast]

end IssueFlow.JavaScript
