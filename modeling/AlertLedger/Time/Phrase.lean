import AlertLedger.Text.Blank
import AlertLedger.Text.Quoted
import AlertLedger.Time.Span

/-!
# Duration phrases

A span of time as people write it: a sequence of numbers with units, such as `1h 30m` or `1.5s`.
The phrase is read one character at a time by a machine of four phases (`Phase`); the first
character that cannot go on decides the error, and errors give an offset in bytes of UTF-8: of that
character, or, where a number is missing, of the place from which it was looked for. All counts are
kept in 64 bits, and a fraction has to come out exact, in nanoseconds for units up to the minute
and in seconds for longer ones. Nanoseconds that come to one second exactly, when the seconds are
full, are the one thing that is not refused but abrupt (`PhraseError.overrun`).
-/

namespace AlertLedger

/-! ## 1. Units -/

/-- A unit of time that a phrase can name. -/
inductive TimeUnit where
  | nanosecond | microsecond | millisecond | second | minute | hour | day | week | month | year
  deriving DecidableEq, Repr

namespace TimeUnit

/-- The unit that a name stands for. Months and years are mean lengths. -/
def ofName? (name : String) : Option TimeUnit :=
  if name ∈ ["nanos", "nsec", "ns"] then some .nanosecond
  else if name ∈ ["usec", "us", "µs"] then some .microsecond
  else if name ∈ ["millis", "msec", "ms"] then some .millisecond
  else if name ∈ ["seconds", "second", "secs", "sec", "s"] then some .second
  else if name ∈ ["minutes", "minute", "min", "mins", "m"] then some .minute
  else if name ∈ ["hours", "hour", "hr", "hrs", "h"] then some .hour
  else if name ∈ ["days", "day", "d"] then some .day
  else if name ∈ ["weeks", "week", "wk", "wks", "w"] then some .week
  else if name ∈ ["months", "month", "M"] then some .month
  else if name ∈ ["years", "year", "yr", "yrs", "y"] then some .year
  else none

end TimeUnit

/-- The size of a unit, counted in seconds or in nanoseconds. -/
inductive UnitSize where
  | seconds (n : Nat)
  | nanos (n : Nat)
  deriving DecidableEq, Repr

/-- The size by which the whole part of a number is multiplied. -/
def TimeUnit.wholeSize : TimeUnit → UnitSize
  | .nanosecond => .nanos 1
  | .microsecond => .nanos 1000
  | .millisecond => .nanos 1000000
  | .second => .seconds 1
  | .minute => .seconds 60
  | .hour => .seconds 3600
  | .day => .seconds 86400
  | .week => .seconds 604800
  | .month => .seconds 2630016
  | .year => .seconds 31557600

/-- The size by which a fraction is multiplied; a nanosecond has no fractions. -/
def TimeUnit.fractionSize? : TimeUnit → Option UnitSize
  | .nanosecond => none
  | .second => some (.nanos 1000000000)
  | .minute => some (.nanos 60000000000)
  | u => some u.wholeSize

/-! ## 2. Errors -/

/-- Why a phrase is refused. -/
inductive PhraseError where
  | empty
  | invalidCharacter (offset : Nat)
  /-- What comes after an offset, blanks aside, is no number. -/
  | numberExpected (offset : Nat)
  /-- A number is followed by no unit. -/
  | unitNeeded (n : Nat)
  | unknownUnit (name : String)
  /-- A count leaves 64 bits, or a fraction does not come out exact. -/
  | tooLarge
  /-- The nanoseconds come to one second exactly, and there is no room for it. -/
  | overrun
  deriving DecidableEq, Repr

/-- Whether an error breaks off what goes on, instead of being reported. -/
def PhraseError.isAbrupt : PhraseError → Bool
  | .overrun => true
  | _ => false

/-- The text of a refusal. -/
def PhraseError.message : PhraseError → String
  | .empty => "value was empty"
  | .invalidCharacter offset => "invalid character at " ++ Text.Decimal.text offset
  | .numberExpected offset => "expected number at " ++ Text.Decimal.text offset
  | .unitNeeded n =>
    "time unit needed, for example " ++ Text.Decimal.text n ++ "sec or "
      ++ Text.Decimal.text n ++ "ms"
  | .unknownUnit name =>
    "unknown time unit " ++ Text.Quoted.encode name ++ ", supported units: ns, us/µs, ms, sec, "
      ++ "min, hours, days, weeks, months, years (and few variations)"
  | .tooLarge =>
    "number is too large or cannot be represented without a lack of precision "
      ++ "(values below 1ns are not supported)"
  | .overrun => "the seconds overrun their count"

/-! ## 3. Counts of 64 bits -/

namespace Phrase

/-- A count that has to fit in 64 bits. -/
def checked (n : Nat) : Except PhraseError Nat :=
  if n < UInt64.size then .ok n else .error .tooLarge

/-- A total with some seconds more. -/
def addSeconds (total : Span) (n : Nat) : Except PhraseError Span := do
  let seconds ← checked (total.seconds + n)
  .ok (.ofParts seconds total.subsecond)

/-- A total with some nanoseconds more. -/
def addNanos (total : Span) (n : Nat) : Except PhraseError Span := do
  let nanos ← checked (total.subsecond + n)
  if nanos = Span.second ∧ total.seconds + 1 = UInt64.size then .error .overrun
  else
    let seconds ← checked (total.seconds + nanos / Span.second)
    .ok (.ofParts seconds (nanos % Span.second))

/-- A total with `n / d` of a size more, where the division has to come out exact. -/
def addSized (total : Span) (size : UnitSize) (n d : Nat) : Except PhraseError Span := do
  match size with
  | .seconds k =>
    let product ← checked (n * k)
    if product % d = 0 then addSeconds total (product / d) else .error .tooLarge
  | .nanos k =>
    let product ← checked (n * k)
    if product % d = 0 then addNanos total (product / d) else .error .tooLarge

/-- A fraction that has been read: a numerator over a power of ten. -/
structure Fraction where
  numerator : Nat
  denominator : Nat
  deriving DecidableEq, Repr

/-- A total with one number and its unit more, the whole part first. -/
def addNumber (total : Span) (whole : Nat) (fraction : Option Fraction) (unit : String) :
    Except PhraseError Span := do
  if unit = "" then .error (.unitNeeded whole)
  else
    match TimeUnit.ofName? unit with
    | none => .error (.unknownUnit unit)
    | some u =>
      let total ← addSized total u.wholeSize whole 1
      match fraction with
      | none => .ok total
      | some f =>
        match u.fractionSize? with
        | none => .error .tooLarge
        | some size => addSized total size f.numerator f.denominator

/-! ## 4. The machine -/

/-- What is being read. -/
inductive Phase where
  /-- Before a number, which is looked for from `mark` on. -/
  | start (mark : Nat)
  /-- In the digits before the point. -/
  | whole (n : Nat)
  /-- In the digits after the point. An error here is reported at `mark`: at the point until
  something follows it, then at the character after the last one accepted. -/
  | fraction (whole : Nat) (f : Fraction) (mark : Nat)
  /-- In the letters of a unit, kept in reverse. -/
  | unit (whole : Nat) (f : Option Fraction) (letters : List Char)
  deriving DecidableEq, Repr

/-- What has been added up so far, and what is being read. -/
structure Reading where
  total : Span
  phase : Phase
  deriving DecidableEq, Repr

/-- The letters of unit names: those of ASCII, and the micro sign. -/
def isUnitLetter (c : Char) : Bool := c.isAlpha || c = '\u00b5'

/-- The number whose unit has ended. -/
def closeUnit (total : Span) (whole : Nat) (f : Option Fraction) (letters : List Char) :
    Except PhraseError Span :=
  addNumber total whole f (String.ofList letters.reverse)

/-- One character more of the phrase, at an offset. -/
def step (r : Reading) (offset : Nat) (c : Char) : Except PhraseError Reading := do
  let digit := Text.Decimal.digitValue c
  match r.phase with
  | .start mark =>
    if Text.isBlank c then .ok r
    else if Text.Decimal.isDigit c then .ok { r with phase := .whole digit }
    else .error (.numberExpected mark)
  | .whole n =>
    if Text.Decimal.isDigit c then
      let n ← checked (10 * n + digit)
      .ok { r with phase := .whole n }
    else if Text.isBlank c then .ok r
    else if isUnitLetter c then .ok { r with phase := .unit n none [c] }
    else if c = '.' then .ok { r with phase := .fraction n ⟨0, 1⟩ offset }
    else .error (.invalidCharacter offset)
  | .fraction n f mark =>
    if Text.Decimal.isDigit c then
      let denominator ← checked (10 * f.denominator)
      let numerator ← checked (10 * f.numerator + digit)
      .ok { r with phase := .fraction n ⟨numerator, denominator⟩ (offset + c.utf8Size) }
    else if Text.isBlank c then .ok { r with phase := .fraction n f (offset + c.utf8Size) }
    else if isUnitLetter c ∧ f.denominator ≠ 1 then .ok { r with phase := .unit n (some f) [c] }
    else .error (.invalidCharacter mark)
  | .unit n f letters =>
    if Text.Decimal.isDigit c then
      let total ← closeUnit r.total n f letters
      .ok ⟨total, .whole digit⟩
    else if Text.isBlank c then
      let total ← closeUnit r.total n f letters
      .ok ⟨total, .start (offset + c.utf8Size)⟩
    else if isUnitLetter c then .ok { r with phase := .unit n f (c :: letters) }
    else .error (.invalidCharacter offset)

/-- All characters of a text from an offset on. -/
def run (r : Reading) (offset : Nat) : List Char → Except PhraseError Reading
  | [] => .ok r
  | c :: cs => do
    let r ← step r offset c
    run r (offset + c.utf8Size) cs

/-- The total when the phrase has ended. -/
def finish (r : Reading) : Except PhraseError Span :=
  match r.phase with
  | .start _ => .ok r.total
  | .whole n => .error (.unitNeeded n)
  | .fraction n f mark =>
    if f.denominator = 1 then .error (.invalidCharacter mark) else .error (.unitNeeded n)
  | .unit n f letters => closeUnit r.total n f letters

/-- The span that a phrase stands for. A lone zero needs no unit. -/
def read (phrase : String) : Except PhraseError Span :=
  if phrase = "0" then .ok .zero
  else if Text.isBlankText phrase then .error .empty
  else do
    let r ← run ⟨.zero, .start 0⟩ 0 phrase.toList
    finish r

end Phrase

end AlertLedger
