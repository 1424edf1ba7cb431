import AlertLedger.Text.Decimal

/-!
# Spans of time

A length of time in whole nanoseconds. Messages show it in the largest of the units second,
millisecond, microsecond and nanosecond of which it holds at least one, with exactly the places it
needs.
-/

namespace AlertLedger

/-- A length of time. -/
structure Span where
  nanos : Nat
  deriving DecidableEq, Repr

namespace Span

/-- The nanoseconds of one second. -/
def second : Nat := 1000000000

/-- The nanoseconds of one millisecond. -/
def millisecond : Nat := 1000000

/-- The nanoseconds of one microsecond. -/
def microsecond : Nat := 1000

/-- No time at all. -/
def zero : Span := ⟨0⟩

/-- A length given in seconds and nanoseconds. -/
def ofParts (seconds nanos : Nat) : Span := ⟨seconds * second + nanos⟩

/-- A length given in milliseconds. -/
def ofMillis (n : Nat) : Span := ⟨n * millisecond⟩

/-- The whole seconds of a length. -/
def seconds (s : Span) : Nat := s.nanos / second

/-- The nanoseconds of a length beyond its whole seconds. -/
def subsecond (s : Span) : Nat := s.nanos % second

/-- Whether a length is no time at all. -/
def isZero (s : Span) : Bool := s.nanos = 0

@[simp] theorem ofParts_parts (s : Span) : ofParts s.seconds s.subsecond = s := by
  cases s with
  | mk n => simp [ofParts, seconds, subsecond, Nat.div_add_mod']

@[simp] theorem isZero_zero : zero.isZero = true := rfl

/-- The places of a fraction of `width` digits, without the zeros at its end. -/
def places (width n : Nat) : List Char :=
  let ds := ((Text.Decimal.padded width n).reverse.dropWhile (· = '0')).reverse
  if ds = [] then [] else '.' :: ds

/-- A number of units of a size, whose remainder has `width` places. -/
def inUnits (n size width : Nat) : String :=
  String.ofList (Text.Decimal.digits (n / size) ++ places width (n % size))

/-- A length in the largest unit of which it holds at least one. -/
def text (s : Span) : String :=
  if second ≤ s.nanos then inUnits s.nanos second 9 ++ "s"
  else if millisecond ≤ s.nanos then inUnits s.nanos millisecond 6 ++ "ms"
  else if microsecond ≤ s.nanos then inUnits s.nanos microsecond 3 ++ "µs"
  else Text.Decimal.text s.nanos ++ "ns"

end Span

end AlertLedger
