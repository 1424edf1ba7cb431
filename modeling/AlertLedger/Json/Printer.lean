import AlertLedger.Json.Basic
import AlertLedger.Text.Decimal

/-!
# JSON text

Two layouts of one value: on a single line without blanks, and spread over lines with two spaces
for each level. An empty array or object is a bare pair of brackets in both. Strings escape the
quote, the backslash and the control characters, and nothing else. What could not be taken over
from a text is written as null.
-/

namespace AlertLedger.Json

/-! ## 1. Strings and numbers -/

/-- A control character without a short escape, by its code in four hexadecimal digits. -/
def escapeControl (c : Char) : List Char :=
  ['\\', 'u'] ++ (Nat.toDigits 16 c.toNat).leftpad 4 '0'

/-- One character as it stands in a JSON string. -/
def escapeChar (c : Char) : List Char :=
  if c = '"' then ['\\', '"']
  else if c = '\\' then ['\\', '\\']
  else if c = '\x08' then ['\\', 'b']
  else if c = '\x0c' then ['\\', 'f']
  else if c = '\n' then ['\\', 'n']
  else if c = '\r' then ['\\', 'r']
  else if c = '\t' then ['\\', 't']
  else if c.toNat < 0x20 then escapeControl c
  else [c]

/-- A string between its quotes. -/
def renderString (s : String) : List Char := '"' :: s.toList.flatMap escapeChar ++ ['"']

/-- An integer, with a minus sign if it is below zero. -/
def renderInteger : Int → List Char
  | .ofNat n => Text.Decimal.digits n
  | .negSucc n => '-' :: Text.Decimal.digits (n + 1)

/-! ## 2. Values -/

/-- How a value is laid out. -/
inductive Layout where
  /-- On one line, without blanks. -/
  | compact
  /-- An entry to a line, two spaces for each level. -/
  | indented
  deriving DecidableEq, Repr

/-- What stands before an entry at a depth, and before the bracket that closes it. -/
def Layout.lineBreak : Layout → Nat → List Char
  | .compact, _ => []
  | .indented, depth => '\n' :: List.replicate (2 * depth) ' '

/-- What stands between the name of a member and its value. -/
def Layout.colon : Layout → List Char
  | .compact => [':']
  | .indented => [':', ' ']

mutual

/-- The text of a value whose first line stands at a depth. -/
def render (l : Layout) (depth : Nat) : Json → List Char
  | .null => ['n', 'u', 'l', 'l']
  | .beyond => ['n', 'u', 'l', 'l']
  | .bool true => ['t', 'r', 'u', 'e']
  | .bool false => ['f', 'a', 'l', 's', 'e']
  | .integer n => renderInteger n
  | .decimal text => text
  | .string s => renderString s
  | .array [] => ['[', ']']
  | .array (x :: xs) =>
    '[' :: (l.lineBreak (depth + 1) ++ (render l (depth + 1) x ++ (renderItems l (depth + 1) xs ++
      (l.lineBreak depth ++ [']']))))
  | .object [] => ['\x7b', '\x7d']
  | .object ((name, v) :: ms) =>
    '\x7b' :: (l.lineBreak (depth + 1) ++ (renderString name ++ (l.colon ++
      (render l (depth + 1) v ++ (renderMembers l (depth + 1) ms ++
        (l.lineBreak depth ++ ['\x7d']))))))
termination_by structural v => v

/-- The entries after the first. -/
def renderItems (l : Layout) (depth : Nat) : List Json → List Char
  | [] => []
  | x :: xs => ',' :: (l.lineBreak depth ++ (render l depth x ++ renderItems l depth xs))
termination_by structural xs => xs

/-- The members after the first. -/
def renderMembers (l : Layout) (depth : Nat) : List (String × Json) → List Char
  | [] => []
  | (name, v) :: ms =>
    ',' :: (l.lineBreak depth ++ (renderString name ++ (l.colon ++
      (render l depth v ++ renderMembers l depth ms))))
termination_by structural ms => ms

end

/-- The text of a value on one line. -/
def compact (v : Json) : String := String.ofList (render .compact 0 v)

/-- The text of a value spread over lines. -/
def pretty (v : Json) : String := String.ofList (render .indented 0 v)

end AlertLedger.Json
