import Mathlib.Algebra.Order.Floor.Div
import Mathlib.Data.Int.Log
import Mathlib.Data.List.Lex
import Mathlib.Data.List.Sort
import Mathlib.Data.Rat.Floor

/-!
# Strings and numbers of JavaScript

The built-in string and number functions the application applies to text, on
strings of Unicode scalar values, and the file extension of a path as Node finds
it. Case mapping is spelled out for ASCII; beyond it, it is the parameter
`Unicode`.

## Main definitions

* `trim`, `utf16Length`, `endsWith`, `slice`, `toUpperCase` — `String.prototype`
* `sort` — `Array.prototype.sort` on strings
* `nearestNumber`, `toDouble` — natural numbers, rounded to doubles
* `number`, `positiveInteger` — `Number(text)`
-/

namespace IssueFlow.JavaScript

/-- Case mapping beyond ASCII. -/
class Unicode where
  upper : Char → List Char

/-! ### Strings -/

/-- White space and line terminators. -/
def isWhiteSpace (c : Char) : Bool :=
  let n := c.toNat
  (9 ≤ n && n ≤ 13) || n = 0x20 || n = 0xA0 || n = 0x1680 || (0x2000 ≤ n && n ≤ 0x200A) ||
    n = 0x2028 || n = 0x2029 || n = 0x202F || n = 0x205F || n = 0x3000 || n = 0xFEFF

/-- Drop white space at both ends. -/
def trimChars (cs : List Char) : List Char :=
  ((cs.dropWhile isWhiteSpace).reverse.dropWhile isWhiteSpace).reverse

def trim (text : String) : String := String.ofList (trimChars text.toList)

/-- `text.length`, the number of UTF-16 code units. -/
def utf16Length (text : String) : ℕ :=
  (text.toList.map fun c => if c.toNat < 0x10000 then 1 else 2).sum

/-- `text.endsWith(suffix)` -/
def endsWith (text suffix : String) : Bool := suffix.toList.isSuffixOf text.toList

/-- The UTF-16 code units of a character. -/
def utf16Units (c : Char) : List ℕ :=
  if c.toNat < 0x10000 then [c.toNat]
  else [0xD800 + (c.toNat - 0x10000) / 0x400, 0xDC00 + (c.toNat - 0x10000) % 0x400]

/-- `first <= second`: strings are compared by code units. -/
def unitsBefore (first second : String) : Prop :=
  first.toList.flatMap utf16Units ≤ second.toList.flatMap utf16Units

instance : DecidableRel unitsBefore := fun first second =>
  inferInstanceAs (Decidable (first.toList.flatMap utf16Units ≤ second.toList.flatMap utf16Units))

instance : Std.Total unitsBefore := ⟨fun _ _ => le_total _ _⟩

instance : IsTrans String unitsBefore := ⟨fun _ _ _ => le_trans⟩

/-- `texts.sort()` -/
def sort (texts : List String) : List String := texts.insertionSort unitsBefore

theorem pairwise_sort (texts : List String) : (sort texts).Pairwise unitsBefore :=
  List.pairwise_insertionSort unitsBefore texts

@[simp] theorem mem_sort {text : String} {texts : List String} : text ∈ sort texts ↔ text ∈ texts :=
  List.mem_insertionSort unitsBefore

/-- The first code units of a text. Half of a surrogate pair is written as the
replacement character. -/
def sliceChars (units : ℕ) : List Char → List Char
  | [] => []
  | c :: cs =>
      if units = 0 then []
      else if c.toNat < 0x10000 then c :: sliceChars (units - 1) cs
      else if units = 1 then [Char.ofNat 0xFFFD]
      else c :: sliceChars (units - 2) cs

/-- `text.slice(0, units)` -/
def slice (units : ℕ) (text : String) : String := String.ofList (sliceChars units text.toList)

/-- The last segment of a path, without slashes at its end. -/
def lastSegment (path : List Char) : List Char :=
  ((path.reverse.dropWhile (· = '/')).takeWhile (· ≠ '/')).reverse

/-- `path.extname`: the last segment from its last dot on, unless that dot is
its first character. -/
def extname (path : String) : String :=
  let base := lastSegment path.toList
  match base.reverse.dropWhile (· ≠ '.') with
  | [] | [_] => ""
  | _ => if base = ['.', '.'] then ""
      else String.ofList ('.' :: (base.reverse.takeWhile (· ≠ '.')).reverse)

/-- Upper case of one character. -/
def upperChar [Unicode] (c : Char) : List Char :=
  if c.toNat < 128 then [c.toUpper] else Unicode.upper c

def toUpperCase [Unicode] (text : String) : String := String.ofList (text.toList.flatMap upperChar)

/-! ### Numbers -/

/-- The value of digits in a base. -/
def digitsValue (base : ℕ) (digits : List ℕ) : ℕ :=
  digits.foldl (fun value digit => value * base + digit) 0

def digitOf (c : Char) : Option ℕ :=
  if c.isDigit then some (c.toNat - 48)
  else if 97 ≤ c.toNat && c.toNat ≤ 102 then some (c.toNat - 87)
  else if 65 ≤ c.toNat && c.toNat ≤ 70 then some (c.toNat - 55)
  else none

/-- The digits of a nonempty numeral in a base. -/
def digitsIn (base : ℕ) (cs : List Char) : Option (List ℕ) :=
  if cs.isEmpty then none
  else cs.mapM fun c => (digitOf c).filter (· < base)

/-- An optional sign. -/
def takeSign : List Char → ℤ × List Char
  | '+' :: cs => (1, cs)
  | '-' :: cs => (-1, cs)
  | cs => (1, cs)

/-- The exponent part of a decimal literal, up to its end. -/
def exponentPart : List Char → Option ℤ
  | [] => some 0
  | c :: cs =>
      if c = 'e' ∨ c = 'E' then
        let (sign, digits) := takeSign cs
        (digitsIn 10 digits).map fun digits => sign * digitsValue 10 digits
      else none

/-- An unsigned decimal literal. -/
def decimalLiteral (cs : List Char) : Option ℚ :=
  let (whole, rest) := cs.span Char.isDigit
  let (fraction, rest) :=
    match rest with
    | '.' :: rest => rest.span Char.isDigit
    | _ => ([], rest)
  match digitsIn 10 (whole ++ fraction), exponentPart rest with
  | some digits, some exponent =>
      some (digitsValue 10 digits * (10 : ℚ) ^ (exponent - fraction.length))
  | _, _ => none

/-- The exact value of a numeric string; `none` stands for NaN and infinities. -/
def exactNumber (text : String) : Option ℚ :=
  match trimChars text.toList with
  | [] => some 0
  | '0' :: 'x' :: cs | '0' :: 'X' :: cs => (digitsIn 16 cs).map fun digits => digitsValue 16 digits
  | '0' :: 'o' :: cs | '0' :: 'O' :: cs => (digitsIn 8 cs).map fun digits => digitsValue 8 digits
  | '0' :: 'b' :: cs | '0' :: 'B' :: cs => (digitsIn 2 cs).map fun digits => digitsValue 2 digits
  | cs =>
      let (sign, rest) := takeSign cs
      (decimalLiteral rest).map fun value => sign * value

/-- Round to an integer, ties to even. -/
def roundHalfEven (q : ℚ) : ℤ :=
  let floor := ⌊q⌋
  if q - floor < 1 / 2 then floor
  else if 1 / 2 < q - floor then floor + 1
  else if floor % 2 = 0 then floor
  else floor + 1

/-- Round a positive number to 53 significant bits. -/
def roundToDouble (q : ℚ) : ℚ :=
  let unit := (2 : ℚ) ^ (Int.log 2 q - 52)
  roundHalfEven (q / unit) * unit

/-- The number next to a natural number: what integer arithmetic gives. -/
def nearestNumber (n : ℕ) : ℕ := (roundToDouble n).num.toNat

/-- A natural number as a double. `none` stands for infinity. -/
def toDouble (n : ℕ) : Option ℕ :=
  if nearestNumber n < 2 ^ 1024 then some (nearestNumber n) else none

/-- `value * factor` -/
def times (value : Option ℕ) (factor : ℕ) : Option ℕ := value.bind fun n => toDouble (n * factor)

/-- `Number(text)` when the text is a natural number's digits. -/
def number (text : String) : Option ℕ :=
  (exactNumber text).bind fun value => toDouble value.num.toNat

/-- `Number(text)` when it is a positive integer. -/
def positiveInteger (text : String) : Option ℕ :=
  match exactNumber text with
  | none => none
  | some q =>
      if q ≤ 0 then none
      else
        let double := roundToDouble q
        if double.den = 1 ∧ 1 ≤ double ∧ double < 2 ^ 1024 then some double.num.toNat else none

example : positiveInteger " 42 " = some 42 ∧ positiveInteger "4.2e1" = some 42 ∧
    positiveInteger "0x2A" = some 42 ∧ positiveInteger "42a" = none ∧
    positiveInteger "9007199254740993" = some 9007199254740992 := by
  decide +kernel

end IssueFlow.JavaScript
