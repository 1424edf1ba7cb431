import AlertLedger.Http.Header
import AlertLedger.Text.Decimal
import AlertLedger.Text.Hexadecimal

/-!
# The body of a message

Where the body of an HTTP answer ends (`Framing`): some answers have none; else it comes in chunks,
has a length that is given in bytes, or goes on to the end of the text. A body in chunks is a
sequence of sizes in hexadecimal, each on a line before as many bytes and a line end; a chunk of
size zero and the trailers after it are its end. A body that breaks off or breaks these rules has
no content; one whose length ends inside of a character ends with an unknown character.
-/

namespace AlertLedger.Http

/-! ## 1. Framing -/

/-- Where a body ends. -/
inductive Framing where
  /-- There is no body. -/
  | empty
  | chunked
  /-- The body has this many bytes. -/
  | length (n : Nat)
  /-- The body goes on to the end. -/
  | toEnd
  deriving DecidableEq, Repr

/-- Whether the last of the codings in a header is the one in chunks. -/
def isChunked (value : String) : Bool :=
  match listed? value with
  | some parts => (parts.getLast?.map String.toLower) = some "chunked"
  | none => false

/-- A length below the two highest numbers of 64 bits. -/
def readLength? (s : String) : Option Nat :=
  match Text.Decimal.read? s.toList with
  | some n => if n + 2 < UInt64.size then some n else none
  | none => none

/-- The length that all headers agree on. -/
def agreedLength? (values : List String) : Option Nat := do
  let parts ← values.mapM listed?
  let lengths ← parts.flatten.mapM readLength?
  match lengths with
  | [] => none
  | n :: ns => if ns.all (· = n) then some n else none

/-- Where the body of an answer ends, by its status and its headers. Answers of the older version
have no codings. -/
def framing? (isOld : Bool) (status : Nat) (headers : List Header) : Option Framing :=
  if status ∈ [101, 204, 304] then some .empty
  else
    match valuesOf "Transfer-Encoding" headers with
    | v :: vs =>
      if isOld then none
      else if isChunked ((v :: vs).getLastD v) then some .chunked
      else some .toEnd
    | [] =>
      match valuesOf "Content-Length" headers with
      | [] => some .toEnd
      | vs => (agreedLength? vs).map .length

/-! ## 2. Chunks -/

/-- The characters that fill a number of bytes, and the text after them. -/
def takeBytes : Nat → List Char → Option (List Char × List Char)
  | 0, cs => some ([], cs)
  | _ + 1, [] => none
  | n + 1, c :: cs =>
    if c.utf8Size ≤ n + 1 then do
      let (ds, rest) ← takeBytes (n + 1 - c.utf8Size) cs
      some (c :: ds, rest)
    else none
termination_by _ cs => cs.length

/-- The text after a carriage return and a line feed. -/
def fullLineEnd? : List Char → Option (List Char)
  | '\r' :: '\n' :: rest => some rest
  | _ => none

/-- How many bytes a text has. -/
def byteCount : List Char → Nat
  | [] => 0
  | c :: cs => c.utf8Size + byteCount cs

/-- What stands beside the content of a body has less bytes than this: the extensions of all its
chunks together, and its trailers with the empty line after them. -/
def besidesLimit : Nat := 16384

/-- The extension on the line of a chunk, after a semicolon, and the text after it. -/
def readExtension : List Char → List Char × List Char
  | ';' :: cs => cs.span fun c => c ≠ '\r' && c ≠ '\n'
  | cs => ([], cs)

/-- The size of a chunk and the bytes of its extension, from the line before it. -/
def readSize (cs : List Char) : Option (Nat × Nat × List Char) := do
  let digits := cs.takeWhile Text.Hexadecimal.isDigit
  let size := Text.Hexadecimal.value digits
  let rest := (cs.dropWhile Text.Hexadecimal.isDigit).dropWhile isLineBlank
  let (extension, rest) := readExtension rest
  if digits = [] ∨ UInt64.size ≤ size then none
  else do
    let rest ← fullLineEnd? rest
    some (size, byteCount extension, rest)

/-- The lines of the trailers up to an empty line, if there are no more than a number of them. -/
def trailerLines (most : Nat) (cs : List Char) : Option (List (List Char)) :=
  match cs.takeWhile (· ≠ '\r') with
  | [] => (fullLineEnd? cs).map fun _ => []
  | line =>
    match most with
    | 0 => none
    | n + 1 => do
      let rest ← fullLineEnd? (cs.dropWhile (· ≠ '\r'))
      let lines ← trailerLines n rest
      some (line :: lines)

/-- Whether trailers are made of headers, of which there are no more than lines. -/
def areTrailers (cs : List Char) : Bool :=
  match trailerLines headerLimit cs with
  | some lines =>
    let text := lines.foldr (fun line text => line ++ '\r' :: '\n' :: text) ['\r', '\n']
    byteCount text < besidesLimit && (readHeaders lines.length text).isSome
  | none => false

/-- What the chunks of a body hold, of at most a number of them, after some bytes of extensions. -/
def readChunks : Nat → Nat → List Char → Option (List Char)
  | 0, _, _ => none
  | n + 1, extended, cs => do
    let (size, extension, rest) ← readSize cs
    let extended := extended + extension
    if besidesLimit ≤ extended then none
    else if size = 0 then
      if areTrailers rest then some [] else none
    else
      let (ds, rest) ← takeBytes size rest
      let rest ← fullLineEnd? rest
      let more ← readChunks n extended rest
      some (ds ++ more)

/-! ## 3. Content -/

/-- What stands for a character that is not whole. -/
def unknownChar : Char := '\ufffd'

/-- A number of bytes of a text, if it has so many. What is left of a character in which they end
is unknown. -/
def cutBytes : Nat → List Char → Option (List Char)
  | 0, _ => some []
  | _ + 1, [] => none
  | n + 1, c :: cs =>
    if c.utf8Size ≤ n + 1 then (cutBytes (n + 1 - c.utf8Size) cs).map (c :: ·)
    else some [unknownChar]
termination_by _ cs => cs.length

/-- What a body holds. -/
def Framing.content? : Framing → List Char → Option (List Char)
  | .empty, _ => some []
  | .chunked, cs => readChunks (cs.length + 1) 0 cs
  | .length n, cs => cutBytes n cs
  | .toEnd, cs => some cs

end AlertLedger.Http
