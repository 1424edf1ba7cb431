import AlertLedger.Text.Blank
import AlertLedger.Text.Decimal
import AlertLedger.Time.Instant

/-!
# Timestamps

The written forms of an instant. `Instant.text` is the form of RFC 3339 in UTC with the fewest of
0, 3, 6 or 9 places that are exact; `Instant.plainText` is the form that people read, without the
fraction. `readTimestamp?` accepts the first form and a good deal more: one or two digits where
two are usual, signed years of any length, a blank for the letter between date and time, blanks
before every number and separator, and an offset from UTC.
-/

namespace AlertLedger

open Text (dropBlanks isBlank)
open Text.Decimal (isDigit padded value)

/-! ## 1. Writing -/

/-- A year in four digits; outside 0 to 9999 it has a sign. -/
def yearText (y : Int) : List Char :=
  if y < 0 then '-' :: padded 4 y.natAbs
  else if 9999 < y then '+' :: padded 4 y.natAbs
  else padded 4 y.natAbs

namespace Instant

/-- The date in digits with hyphens. -/
def dateText (t : Instant) : List Char :=
  yearText t.date.year ++ '-' :: (padded 2 t.date.month ++ '-' :: padded 2 t.date.day)

/-- The time in digits with colons; a leap second is the sixtieth of its minute. -/
def timeText (t : Instant) : List Char :=
  padded 2 (t.second / 3600) ++ ':' :: (padded 2 (t.second / 60 % 60) ++
    ':' :: padded 2 (t.second % 60 + if t.isLeap then 1 else 0))

/-- The fraction of the second, with its point and 3, 6 or 9 places, or nothing. -/
def fractionText (t : Instant) : List Char :=
  let n := t.nano % nanosPerSecond
  if n = 0 then []
  else if n % 1000000 = 0 then '.' :: padded 3 (n / 1000000)
  else if n % 1000 = 0 then '.' :: padded 6 (n / 1000)
  else '.' :: padded 9 n

/-- An instant in the form of RFC 3339, in UTC. -/
def text (t : Instant) : String :=
  String.ofList (t.dateText ++ 'T' :: (t.timeText ++ (t.fractionText ++ ['Z'])))

/-- An instant as people read it, to the second. -/
def plainText (t : Instant) : String :=
  String.ofList (t.dateText ++ ' ' :: t.timeText) ++ " UTC"

end Instant

/-! ## 2. Numbers and separators -/

/-- A run of at least one digit and at most `limit`. -/
def readDigitRun (limit : Nat) (cs : List Char) : Option (List Char × List Char) :=
  match (cs.take limit).takeWhile isDigit with
  | [] => none
  | ds => some (ds, cs.drop ds.length)

/-- A number of at most two digits, with blanks before it. -/
def readPair (cs : List Char) : Option (Nat × List Char) :=
  (readDigitRun 2 (dropBlanks cs)).map fun (ds, rest) => (value ds, rest)

/-- A year: up to four digits, or any number of them after a sign. -/
def readYear (cs : List Char) : Option (Int × List Char) :=
  match dropBlanks cs with
  | '-' :: rest => (readDigitRun rest.length rest).map fun (ds, rest) => (-(value ds : Int), rest)
  | '+' :: rest => (readDigitRun rest.length rest).map fun (ds, rest) => ((value ds : Int), rest)
  | cs => (readDigitRun 4 cs).map fun (ds, rest) => ((value ds : Int), rest)

/-- A separator, with blanks before it. -/
def readSeparator (sep : Char) (cs : List Char) : Option (List Char) :=
  match dropBlanks cs with
  | c :: rest => if c = sep then some rest else none
  | [] => none

/-- The nanoseconds of a fraction with its point; places after the ninth are dropped. -/
def readFractionNanos : List Char → Option (Nat × List Char)
  | '.' :: rest =>
    (readDigitRun 9 rest).map fun (ds, rest) =>
      (value (ds.rightpad 9 '0'), rest.dropWhile isDigit)
  | cs => some (0, cs)

/-! ## 3. Offsets -/

/-- The seconds of an offset after its sign: two digits of hours, any colons and blanks, two
digits of minutes; less than a day. -/
def readOffsetTime (cs : List Char) : Option (Int × List Char) :=
  match cs with
  | h₁ :: h₂ :: rest =>
    match rest.dropWhile fun c => c = ':' || isBlank c with
    | m₁ :: m₂ :: rest =>
      let hours := value [h₁, h₂]
      let minutes := value [m₁, m₂]
      if [h₁, h₂, m₁, m₂].all isDigit ∧ minutes < 60 ∧ hours < 24 then
        some ((hours * 3600 + minutes * 60 : Nat), rest)
      else none
    | _ => none
  | _ => none

/-- The letters that name UTC, in either case. -/
def readUtcName : List Char → Option (List Char)
  | u :: t :: c :: rest =>
    if u.toUpper = 'U' ∧ t.toUpper = 'T' ∧ c.toUpper = 'C' then some rest else none
  | _ => none

/-- How far a clock runs ahead of UTC, in seconds: named as UTC, by the letter Z, or by an offset
whose minus sign may be the hyphen or the sign of mathematics. -/
def readOffset (cs : List Char) : Option (Int × List Char) :=
  match readUtcName cs with
  | some rest => some (0, rest)
  | none =>
    match cs with
    | 'Z' :: rest => some (0, rest)
    | 'z' :: rest => some (0, rest)
    | '+' :: rest => readOffsetTime rest
    | '-' :: rest => (readOffsetTime rest).map fun (s, rest) => (-s, rest)
    | '\u2212' :: rest => (readOffsetTime rest).map fun (s, rest) => (-s, rest)
    | _ => none

/-! ## 4. Reading -/

/-- The letter or blank between date and time. -/
def readMiddle : List Char → Option (List Char)
  | 'T' :: rest => some rest
  | 't' :: rest => some rest
  | ' ' :: rest => some rest
  | _ => none

/-- The instant at which a clock shows a date and time; the second 60 is the leap second after the
second 59. -/
def Instant.ofClock? (year : Int) (month day hour minute second nano : Nat) (ahead : Int) :
    Option Instant := do
  let date ← Date.of? year month day
  if 24 ≤ hour ∨ 60 ≤ minute ∨ 61 ≤ second then none
  else
    let leap := if second = 60 then 1 else 0
    ofLocal? date (hour * 3600 + minute * 60 + second - leap) (nano + leap * nanosPerSecond) ahead

/-- The instant that a timestamp stands for. -/
def readTimestamp? (s : String) : Option Instant := do
  let (year, cs) ← readYear s.toList
  let cs ← readSeparator '-' cs
  let (month, cs) ← readPair cs
  let cs ← readSeparator '-' cs
  let (day, cs) ← readPair cs
  let cs ← readMiddle cs
  let (hour, cs) ← readPair cs
  let cs ← readSeparator ':' cs
  let (minute, cs) ← readPair cs
  let cs ← readSeparator ':' cs
  let (second, cs) ← readPair cs
  let (nano, cs) ← readFractionNanos cs
  let (ahead, cs) ← readOffset (dropBlanks cs)
  if dropBlanks cs = [] then Instant.ofClock? year month day hour minute second nano ahead
  else none

end AlertLedger
