import AlertLedger.Text.Blank

/-!
# Headers of a message

The lines between the first line of an HTTP message and its body: a name, a colon and a value on
each, and an empty line after the last. A name is a token, with no blank before the colon; a value
may hold blanks, but no control characters. A line ends with a line feed, before which a carriage
return may stand. Names are the same in either case.
-/

namespace AlertLedger.Http

/-- A named value of a message. -/
structure Header where
  name : String
  value : String
  deriving DecidableEq, Repr

/-! ## 1. Characters -/

/-- The characters of a token: letters, digits, and some marks of ASCII. -/
def isTokenChar (c : Char) : Bool := c.isAlphanum || c ∈ "!#$%&'*+-.^_`|~".toList

/-- The characters that a value can hold: all but the controls, the tab among them excepted. -/
def isValueChar (c : Char) : Bool := c = '\t' || (' ' ≤ c && c ≠ '\x7f')

/-- The characters that a value may have to be read as text. -/
def isVisible (c : Char) : Bool := c = '\t' || (' ' ≤ c && c ≤ '~')

/-- The two blanks of a line. -/
def isLineBlank (c : Char) : Bool := c = ' ' || c = '\t'

/-- A value without the blanks around it. -/
def trimValue (cs : List Char) : List Char :=
  ((cs.dropWhile isLineBlank).reverse.dropWhile isLineBlank).reverse

/-! ## 2. Lines -/

/-- The text after the end of a line. -/
def lineEnd? : List Char → Option (List Char)
  | '\r' :: '\n' :: rest => some rest
  | '\n' :: rest => some rest
  | _ => none

/-- The header on the next line. -/
def readHeader (cs : List Char) : Option (Header × List Char) :=
  match cs.takeWhile isTokenChar, cs.dropWhile isTokenChar with
  | c :: name, ':' :: rest => do
    let value := trimValue (rest.takeWhile isValueChar)
    let rest ← lineEnd? (rest.dropWhile isValueChar)
    some (⟨String.ofList (c :: name), String.ofList value⟩, rest)
  | _, _ => none

/-- The headers up to the empty line, if there are no more than a number of them. -/
def readHeaders (most : Nat) (cs : List Char) : Option (List Header × List Char) :=
  match lineEnd? cs with
  | some rest => some ([], rest)
  | none =>
    match most with
    | 0 => none
    | n + 1 => do
      let (h, rest) ← readHeader cs
      let (hs, rest) ← readHeaders n rest
      some (h :: hs, rest)

/-- The most headers that a message may have. -/
def headerLimit : Nat := 100

/-! ## 3. Values -/

/-- The values of the headers with a name, in order. -/
def valuesOf (name : String) (headers : List Header) : List String :=
  (headers.filter fun h => h.name.toLower = name.toLower).map (·.value)

/-- The parts of a value between its commas, without the blanks around them, if the value can be
read as text. -/
def listed? (value : String) : Option (List String) :=
  if value.toList.all isVisible then some ((value.splitOn ",").map Text.strip) else none

end AlertLedger.Http
