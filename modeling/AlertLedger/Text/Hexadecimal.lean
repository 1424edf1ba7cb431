/-!
# Hexadecimal numerals

Natural numbers read in base sixteen, with digits in either case.
-/

namespace AlertLedger.Text.Hexadecimal

/-- The number that one digit stands for. -/
def digitValue? (c : Char) : Option Nat :=
  if '0' ≤ c ∧ c ≤ '9' then some (c.toNat - '0'.toNat)
  else if 'a' ≤ c ∧ c ≤ 'f' then some (c.toNat - 'a'.toNat + 10)
  else if 'A' ≤ c ∧ c ≤ 'F' then some (c.toNat - 'A'.toNat + 10)
  else none

/-- The digits of base sixteen. -/
def isDigit (c : Char) : Bool := (digitValue? c).isSome

/-- The number that a run of digits stands for. -/
def value (cs : List Char) : Nat := cs.foldl (fun n c => 16 * n + (digitValue? c).getD 0) 0

end AlertLedger.Text.Hexadecimal
