import AlertLedger.Text.Decimal

/-!
# The magnitude of numerals

A numeral of a JSON text can stand for more than a double can hold. `isFinite` says which numerals
stay in range: the digits are gathered into a significand of 64 bits, further digits only move the
point, and significand and power of ten are each rounded to a double before they are multiplied.
Numerals that are too small for a double are in range; they come to zero.
-/

namespace AlertLedger.Json.Magnitude

/-! ## 1. Rounding -/

/-- The nearest multiple of a unit; of two that are equally near, the even one. -/
def roundTo (unit n : Nat) : Nat :=
  let q := n / unit
  let r := n % unit
  if unit < 2 * r ∨ (unit = 2 * r ∧ q % 2 = 1) then (q + 1) * unit else q * unit

/-- The double that is nearest to a natural number, if there were no limit to its exponent: 53
binary digits are kept. -/
def toDouble (n : Nat) : Nat := roundTo (1 <<< (n.log2 - 52)) n

/-- The least number that is too large for a double, halfway between the largest double and the
next power of two. -/
def tooLarge : Nat := (1 <<< 1024) - (1 <<< 970)

/-- A power of ten. -/
def powerOfTen : Nat → Nat
  | 0 => 1
  | n + 1 => 10 * powerOfTen n

theorem roundTo_one (n : Nat) : roundTo 1 n = n := by
  simp [roundTo, Nat.mod_one]

/-- **A number of at most 53 binary digits is a double already.** -/
theorem toDouble_of_log2_le {n : Nat} (h : n.log2 ≤ 52) : toDouble n = n := by
  have e : n.log2 - 52 = 0 := by omega
  simp [toDouble, e, roundTo_one]

/-! ## 2. Digits and exponent -/

/-- A significand with the digits that follow it, as long as it stays within 64 bits, and how many
digits it took. -/
def gather (significand : Nat) : List Char → Nat × Nat
  | [] => (significand, 0)
  | d :: ds =>
    let longer := 10 * significand + Text.Decimal.digitValue d
    if longer < UInt64.size then
      let (s, taken) := gather longer ds
      (s, taken + 1)
    else (significand, 0)

/-- The number that an exponent stands for, written with its letter; none at all is zero. -/
def exponentValue : List Char → Int
  | _ :: '-' :: ds => -(Text.Decimal.value ds : Int)
  | _ :: '+' :: ds => Text.Decimal.value ds
  | _ :: ds => Text.Decimal.value ds
  | [] => 0

/-- Whether a significand times a power of ten can be held by a double. -/
def isInRange (significand : Nat) (exponent : Int) : Bool :=
  significand = 0 || exponent < 0
    || (exponent ≤ 308
      && toDouble significand * toDouble (powerOfTen exponent.toNat) < tooLarge)

/-- Whether a numeral can be held by a double: the digits before the point, the digits after it,
and the exponent with its letter. -/
def isFinite (whole fraction exponent : List Char) : Bool :=
  let (s, taken) := gather 0 whole
  let (s, places) := gather s fraction
  isInRange s ((whole.length - taken : Int) - places + exponentValue exponent)

end AlertLedger.Json.Magnitude
