/-!
# Dates

Days of the Gregorian calendar, extended to years before the first by the same rules. A `Date` is
a day that exists: its month has that day, and its year lies in the range that timestamps can
have. Dates are ordered by `rank`, year first, then month, then day; `dayNumber` counts them.
-/

namespace AlertLedger

/-- Every fourth year is a leap year, except the centuries that 400 does not divide. -/
def isLeapYear (y : Int) : Bool := y % 4 = 0 && (y % 100 ≠ 0 || y % 400 = 0)

/-- How many days a month has; a number that is no month has none. -/
def daysInMonth (y : Int) (m : Nat) : Nat :=
  if m = 2 then (if isLeapYear y then 29 else 28)
  else if m = 4 ∨ m = 6 ∨ m = 9 ∨ m = 11 then 30
  else if 1 ≤ m ∧ m ≤ 12 then 31
  else 0

/-- The first year that a timestamp can have. -/
def firstYear : Int := -262143

/-- The last year that a timestamp can have. -/
def lastYear : Int := 262142

/-- The numbers that name a day. -/
def IsDate (y : Int) (m d : Nat) : Prop :=
  firstYear ≤ y ∧ y ≤ lastYear ∧ 1 ≤ d ∧ d ≤ daysInMonth y m

instance (y : Int) (m d : Nat) : Decidable (IsDate y m d) := by
  unfold IsDate
  infer_instance

/-- A day of the calendar. -/
structure Date where
  year : Int
  month : Nat
  day : Nat
  isDate : IsDate year month day
  deriving DecidableEq

namespace Date

/-! ## 1. Making dates -/

/-- The day with these numbers, if there is one. -/
def of? (y : Int) (m d : Nat) : Option Date :=
  if h : IsDate y m d then some ⟨y, m, d, h⟩ else none

theorem of?_eq_some {y : Int} {m d : Nat} (h : IsDate y m d) : of? y m d = some ⟨y, m, d, h⟩ := by
  simp [of?, h]

@[simp] theorem of?_self (a : Date) : of? a.year a.month a.day = some a := of?_eq_some a.isDate

/-- The day after, unless the calendar ends. -/
def next? (a : Date) : Option Date :=
  of? a.year a.month (a.day + 1) <|> of? a.year (a.month + 1) 1 <|> of? (a.year + 1) 1 1

/-- The day before, unless the calendar starts. -/
def prev? (a : Date) : Option Date :=
  of? a.year a.month (a.day - 1) <|> of? a.year (a.month - 1) (daysInMonth a.year (a.month - 1))
    <|> of? (a.year - 1) 12 31

/-! ## 2. Order -/

/-- A number that grows with the date: year, then month, then day. -/
def rank (a : Date) : Int := a.year * 512 + a.month * 32 + a.day

theorem daysInMonth_le (y : Int) (m : Nat) : daysInMonth y m ≤ 31 := by
  unfold daysInMonth
  split
  · split <;> decide
  · split
    · decide
    · split <;> decide

theorem month_le (a : Date) : a.month ≤ 12 := by
  have h := a.isDate.2.2.1
  have h' := a.isDate.2.2.2
  unfold daysInMonth at h'
  grind

theorem day_le (a : Date) : a.day ≤ 31 :=
  Nat.le_trans a.isDate.2.2.2 (daysInMonth_le _ _)

theorem rank_injective {a b : Date} (h : a.rank = b.rank) : a = b := by
  have ha := a.month_le
  have hb := b.month_le
  have ha' := a.day_le
  have hb' := b.day_le
  obtain ⟨y, m, d, _⟩ := a
  obtain ⟨y', m', d', _⟩ := b
  simp only [rank] at *
  have e : y = y' ∧ m = m' ∧ d = d' := by omega
  obtain ⟨rfl, rfl, rfl⟩ := e
  rfl

/-! ## 3. Counting days -/

/-- The days of a year before a month. -/
def daysBefore (y : Int) (m : Nat) : Nat :=
  (List.range (m - 1)).foldl (fun n i => n + daysInMonth y (i + 1)) 0

/-- The days from 1970-01-01 to a date, below zero for earlier dates. -/
def dayNumber (a : Date) : Int :=
  let y := a.year - 1
  365 * y + y / 4 - y / 100 + y / 400 + daysBefore a.year a.month + a.day - 719163

end Date

end AlertLedger
