import AlertLedger.Http.Body

/-!
# Answers of a server

What a server sends back over a connection, and what a client makes of it. The text starts with the
version and a status of three digits; headers and the body follow. Answers with a status from 100
to 199 only announce the one that counts, which comes after them, except 101, after which the
connection serves something else. A text that breaks the rules before the body is no answer at all.
-/

namespace AlertLedger.Http

/-! ## 1. Sending -/

/-- What a server replies. -/
structure Reply where
  status : Nat
  headers : List Header
  body : String
  deriving DecidableEq, Repr

/-- A header on its line. -/
def Header.line (h : Header) : String := h.name ++ ": " ++ h.value ++ "\r\n"

/-- A reply as it is sent: with the length of its body, and as the last one on its connection. -/
def Reply.text (r : Reply) : List Char :=
  let framed := [Header.mk "Content-Length" (Text.Decimal.text r.body.utf8ByteSize),
    Header.mk "Connection" "close"] ++ r.headers
  ("HTTP/1.1 " ++ Text.Decimal.text r.status ++ " \r\n"
    ++ String.join (framed.map Header.line) ++ "\r\n" ++ r.body).toList

/-! ## 2. Receiving -/

/-- An answer that has been received. -/
structure Answer where
  status : Nat
  headers : List Header
  /-- What the body holds, if it is whole. -/
  content : Option String
  deriving DecidableEq, Repr

/-- The text after the empty lines that may stand before an answer. -/
def skipEmptyLines : List Char → List Char
  | '\r' :: '\n' :: rest => skipEmptyLines rest
  | '\n' :: rest => skipEmptyLines rest
  | cs => cs

/-- The text after the status, with a reason or without one. -/
def afterReason? : List Char → Option (List Char)
  | ' ' :: rest => lineEnd? (rest.dropWhile isValueChar)
  | cs => lineEnd? cs

/-- The first line of an answer: whether the version is the older one, and the status. -/
def readStatus (cs : List Char) : Option (Bool × Nat × List Char) :=
  match skipEmptyLines cs with
  | 'H' :: 'T' :: 'T' :: 'P' :: '/' :: '1' :: '.' :: v :: ' ' :: a :: b :: c :: rest => do
    let status ← Text.Decimal.read? [a, b, c]
    let rest ← afterReason? rest
    if (v = '0' ∨ v = '1') ∧ 100 ≤ status then some (v = '0', status, rest) else none
  | _ => none

/-- Whether a status only announces the answer that counts. -/
def isInterim (status : Nat) : Bool := status < 200 && status ≠ 101

/-- The answer that counts, after at most a number of others. -/
def readAnswer : Nat → List Char → Option Answer
  | 0, _ => none
  | n + 1, cs => do
    let (isOld, status, rest) ← readStatus cs
    let (headers, rest) ← readHeaders headerLimit rest
    if isInterim status then readAnswer n rest
    else do
      let framing ← framing? isOld status headers
      some ⟨status, headers, (framing.content? rest).map String.ofList⟩

namespace Answer

/-- The answer that counts in what a server sent. -/
def read? (text : List Char) : Option Answer := readAnswer (text.length + 1) text

/-- The value of the first header with a name. -/
def header? (a : Answer) (name : String) : Option String := (valuesOf name a.headers).head?

end Answer

end AlertLedger.Http
