/-!
# Decimal numerals

Natural numbers written in base ten: without leading zeros, or padded to a width. `value` reads
any run of digits back, so `value (digits n) = n` and padding changes nothing of the value.
-/

namespace AlertLedger.Text.Decimal

/-- The digits of a number, most significant first, without leading zeros. -/
def digits (n : Nat) : List Char := Nat.toDigits 10 n

/-- The digits of a number, filled up with zeros on the left to a width. -/
def padded (width n : Nat) : List Char := (digits n).leftpad width '0'

/-- A number as a text. -/
def text (n : Nat) : String := String.ofList (digits n)

/-- The decimal digits of ASCII. -/
def isDigit (c : Char) : Bool := '0' ≤ c && c ≤ '9'

/-- The number that one digit stands for. -/
def digitValue (c : Char) : Nat := c.toNat - '0'.toNat

/-- The number that a run of digits stands for. -/
def value (cs : List Char) : Nat := cs.foldl (fun n c => 10 * n + digitValue c) 0

/-- The number that a text stands for, if the text is a run of digits. -/
def read? (cs : List Char) : Option Nat :=
  if cs ≠ [] ∧ cs.all isDigit then some (value cs) else none

theorem digits_of_lt_ten {n : Nat} (h : n < 10) : digits n = [n.digitChar] :=
  Nat.toDigits_of_lt_base h

theorem digits_ten_mul_add {n d : Nat} (hn : 0 < n) (hd : d < 10) :
    digits (10 * n + d) = digits n ++ [d.digitChar] := by
  rw [← digits_of_lt_ten hd]
  exact (Nat.toDigits_append_toDigits (by decide) hn hd).symm

theorem digitValue_digitChar {d : Nat} (h : d < 10) : digitValue d.digitChar = d := by
  match d, h with
  | 0, _ | 1, _ | 2, _ | 3, _ | 4, _ | 5, _ | 6, _ | 7, _ | 8, _ | 9, _ => rfl

theorem isDigit_digitChar {d : Nat} (h : d < 10) : isDigit d.digitChar = true := by
  match d, h with
  | 0, _ | 1, _ | 2, _ | 3, _ | 4, _ | 5, _ | 6, _ | 7, _ | 8, _ | 9, _ => rfl

@[simp] theorem value_nil : value [] = 0 := rfl

theorem value_append_singleton (cs : List Char) (c : Char) :
    value (cs ++ [c]) = 10 * value cs + digitValue c := by
  simp [value]

/-- **What is written reads back.** -/
@[simp] theorem value_digits (n : Nat) : value (digits n) = n := by
  induction n using Nat.strongRecOn with
  | ind n ih =>
    by_cases h : n < 10
    · rw [digits_of_lt_ten h]
      simpa [value] using digitValue_digitChar h
    · have e : n = 10 * (n / 10) + n % 10 := by omega
      rw [e, digits_ten_mul_add (by omega) (by omega), value_append_singleton,
        ih (n / 10) (by omega), digitValue_digitChar (by omega)]

theorem all_isDigit_digits (n : Nat) : (digits n).all isDigit = true := by
  induction n using Nat.strongRecOn with
  | ind n ih =>
    by_cases h : n < 10
    · simp [digits_of_lt_ten h, isDigit_digitChar h]
    · have e : n = 10 * (n / 10) + n % 10 := by omega
      rw [e, digits_ten_mul_add (by omega) (by omega)]
      simp only [List.all_append, ih (n / 10) (by omega), Bool.true_and, List.all_cons,
        List.all_nil, Bool.and_true]
      exact isDigit_digitChar (by omega)

theorem digits_ne_nil (n : Nat) : digits n ≠ [] := by
  by_cases h : n < 10
  · simp [digits_of_lt_ten h]
  · have e : n = 10 * (n / 10) + n % 10 := by omega
    rw [e, digits_ten_mul_add (by omega) (by omega)]
    simp

@[simp] theorem read?_digits (n : Nat) : read? (digits n) = some n := by
  simp [read?, digits_ne_nil, all_isDigit_digits]

end AlertLedger.Text.Decimal
