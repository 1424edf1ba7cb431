import AlertLedger.Json.Basic
import AlertLedger.Json.Magnitude
import AlertLedger.Text.Hexadecimal

/-!
# Reading JSON text

A strict reader of RFC 8259: one value, with blanks around it, and nothing else. Refused are
control characters in strings, numerals with superfluous zeros and every extension of the format.
Well formed but `beyond` reach are a string with half of a surrogate pair, a numeral that no double
can hold, an object with a name beyond reach, and an array or object that stands within 127
others. A reading function takes the text that is left and gives back what it read with the text
after it; the functions that call each other count down from a bound that the length of the text
supplies (`read?`).
-/

namespace AlertLedger.Json

/-! ## 1. Blanks and strings -/

/-- The four blanks that may stand between the tokens of a JSON text. -/
def isSpace (c : Char) : Bool := c = ' ' || c = '\n' || c = '\r' || c = '\t'

/-- The text from the next token on. -/
def skipSpace (cs : List Char) : List Char := cs.dropWhile isSpace

/-- The code unit that four hexadecimal digits stand for. -/
def readUnit : List Char → Option (Nat × List Char)
  | a :: b :: c :: d :: rest => do
    let a ← Text.Hexadecimal.digitValue? a
    let b ← Text.Hexadecimal.digitValue? b
    let c ← Text.Hexadecimal.digitValue? c
    let d ← Text.Hexadecimal.digitValue? d
    some (((a * 16 + b) * 16 + c) * 16 + d, rest)
  | _ => none

/-- The code units that open a surrogate pair. -/
def isHighSurrogate (u : Nat) : Bool := 0xD800 ≤ u && u < 0xDC00

/-- The code units that close a surrogate pair. -/
def isLowSurrogate (u : Nat) : Bool := 0xDC00 ≤ u && u < 0xE000

/-- What stands after a backslash and a u: one code unit, or two that form a pair. Half of a pair is
no character. -/
def readCodePoint (cs : List Char) : Option (Option Char × List Char) := do
  let (u, rest) ← readUnit cs
  if isHighSurrogate u then
    match rest with
    | '\\' :: 'u' :: more =>
      let (w, after) ← readUnit more
      if isLowSurrogate w then
        some (some (Char.ofNat (0x10000 + (u - 0xD800) * 0x400 + (w - 0xDC00))), after)
      else some (none, rest)
    | _ => some (none, rest)
  else if isLowSurrogate u then some (none, rest)
  else some (some (Char.ofNat u), rest)

/-- The character that a letter after a backslash stands for. -/
def shortEscape? (c : Char) : Option Char :=
  if c = '"' then some '"'
  else if c = '\\' then some '\\'
  else if c = '/' then some '/'
  else if c = 'b' then some '\x08'
  else if c = 'f' then some '\x0c'
  else if c = 'n' then some '\n'
  else if c = 'r' then some '\r'
  else if c = 't' then some '\t'
  else none

/-- The next character of a string, escaped or as it is; half of a surrogate pair is none. -/
def readChar : List Char → Option (Option Char × List Char)
  | [] => none
  | '\\' :: 'u' :: rest => readCodePoint rest
  | '\\' :: c :: rest => (shortEscape? c).map fun e => (some e, rest)
  | c :: rest => if c = '\\' ∨ c = '"' ∨ c.toNat < 0x20 then none else some (some c, rest)

/-- The rest of a string, up to and with the quote that closes it, character by character. -/
def readChars : Nat → List Char → Option (List (Option Char) × List Char)
  | 0, _ => none
  | n + 1, cs =>
    match cs with
    | '"' :: rest => some ([], rest)
    | cs => do
      let (c, rest) ← readChar cs
      let (s, rest) ← readChars n rest
      some (c :: s, rest)

/-- The string whose opening quote has been read, if it is made of characters. -/
def readString (cs : List Char) : Option (Option String × List Char) :=
  (readChars (cs.length + 1) cs).map fun (s, rest) => ((s.mapM id).map String.ofList, rest)

/-! ## 2. Numbers -/

/-- A run of digits that is not empty. -/
def readDigits (cs : List Char) : Option (List Char × List Char) :=
  match cs.takeWhile Text.Decimal.isDigit with
  | [] => none
  | ds => some (ds, cs.dropWhile Text.Decimal.isDigit)

/-- A fraction with its point, or nothing. -/
def readFraction : List Char → Option (List Char × List Char)
  | '.' :: rest => (readDigits rest).map fun (ds, rest) => ('.' :: ds, rest)
  | cs => some ([], cs)

/-- A sign with the digits after it, or the digits alone. -/
def readSignedDigits : List Char → Option (List Char × List Char)
  | '+' :: rest => (readDigits rest).map fun (ds, rest) => ('+' :: ds, rest)
  | '-' :: rest => (readDigits rest).map fun (ds, rest) => ('-' :: ds, rest)
  | cs => readDigits cs

/-- An exponent with its letter, or nothing. -/
def readExponent : List Char → Option (List Char × List Char)
  | 'e' :: rest => (readSignedDigits rest).map fun (ds, rest) => ('e' :: ds, rest)
  | 'E' :: rest => (readSignedDigits rest).map fun (ds, rest) => ('E' :: ds, rest)
  | cs => some ([], cs)

/-- The digits before the fraction: a zero stands alone. -/
def readWhole (cs : List Char) : Option (List Char × List Char) := do
  let (ds, rest) ← readDigits cs
  if ds.head? = some '0' ∧ ds.length ≠ 1 then none else some (ds, rest)

/-- The value of a numeral, by its sign and its three parts. -/
def ofNumeral (negative : Bool) (whole fraction exponent : List Char) : Json :=
  let n := Text.Decimal.value whole
  if !Magnitude.isFinite whole (fraction.drop 1) exponent then .beyond
  else if fraction = [] ∧ exponent = [] ∧ ¬(negative ∧ n = 0) then
    .integer (if negative then -n else n)
  else .decimal ((if negative then ['-'] else []) ++ whole ++ fraction ++ exponent)

/-- A number without its sign. -/
def readUnsigned (negative : Bool) (cs : List Char) : Option (Json × List Char) := do
  let (whole, rest) ← readWhole cs
  let (fraction, rest) ← readFraction rest
  let (exponent, rest) ← readExponent rest
  some (ofNumeral negative whole fraction exponent, rest)

/-- A number. -/
def readNumber : List Char → Option (Json × List Char)
  | '-' :: rest => readUnsigned true rest
  | cs => readUnsigned false cs

/-! ## 3. Values -/

/-- How many arrays and objects may stand within each other. -/
def nestingLimit : Nat := 127

/-- An array or object where so many more may be opened. -/
def within (room : Nat) (v : Json) : Json := if room = 0 then .beyond else v

/-- The value of a string. -/
def ofString? : Option String → Json
  | some s => .string s
  | none => .beyond

/-- A member before others, if its name is made of characters. -/
def addMember (name : Option String) (v : Json) (ms : Option (List (String × Json))) :
    Option (List (String × Json)) := do
  some ((← name, v) :: (← ms))

/-- The value of an object, if the names of its members are made of characters. -/
def ofMembers? : Option (List (String × Json)) → Json
  | some ms => .object ms
  | none => .beyond

mutual

/-- The value that starts at the next token, where so many arrays and objects may be opened. -/
def readValue : Nat → Nat → List Char → Option (Json × List Char)
  | 0, _, _ => none
  | n + 1, room, cs =>
    match skipSpace cs with
    | 'n' :: 'u' :: 'l' :: 'l' :: rest => some (.null, rest)
    | 't' :: 'r' :: 'u' :: 'e' :: rest => some (.bool true, rest)
    | 'f' :: 'a' :: 'l' :: 's' :: 'e' :: rest => some (.bool false, rest)
    | '"' :: rest => (readString rest).map fun (s, rest) => (ofString? s, rest)
    | '[' :: rest =>
      match skipSpace rest with
      | ']' :: rest => some (within room (.array []), rest)
      | rest =>
        (readItems n (room - 1) rest).map fun (xs, rest) => (within room (.array xs), rest)
    | '\x7b' :: rest =>
      match skipSpace rest with
      | '\x7d' :: rest => some (within room (.object []), rest)
      | rest =>
        (readMembers n (room - 1) rest).map fun (ms, rest) => (within room (ofMembers? ms), rest)
    | cs => readNumber cs

/-- The entries of an array, up to and with the bracket that closes it. -/
def readItems : Nat → Nat → List Char → Option (List Json × List Char)
  | 0, _, _ => none
  | n + 1, room, cs => do
    let (x, rest) ← readValue n room cs
    match skipSpace rest with
    | ',' :: rest =>
      let (xs, rest) ← readItems n room rest
      some (x :: xs, rest)
    | ']' :: rest => some ([x], rest)
    | _ => none

/-- The members of an object, up to and with the brace that closes it, if their names are made of
characters. -/
def readMembers : Nat → Nat → List Char → Option (Option (List (String × Json)) × List Char)
  | 0, _, _ => none
  | n + 1, room, cs =>
    match skipSpace cs with
    | '"' :: rest => do
      let (name, rest) ← readString rest
      match skipSpace rest with
      | ':' :: rest =>
        let (v, rest) ← readValue n room rest
        match skipSpace rest with
        | ',' :: rest =>
          let (ms, rest) ← readMembers n room rest
          some (addMember name v ms, rest)
        | '\x7d' :: rest => some (addMember name v (some []), rest)
        | _ => none
      | _ => none
    | _ => none

end

/-- The value that a whole text stands for. -/
def read? (text : String) : Option Json :=
  let cs := text.toList
  match readValue (2 * cs.length + 2) nestingLimit cs with
  | some (v, rest) => if skipSpace rest = [] then some v else none
  | none => none

end AlertLedger.Json
