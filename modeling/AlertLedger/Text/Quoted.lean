import AlertLedger.Text.Graphic

/-!
# Quoted text

A text between double quotes, on one line, in which every character can be told apart: the quote
and the backslash are escaped, tab, line feed, carriage return and NUL have short escapes, and all
else that is not graphic is written by its code point in hexadecimal. Messages about settings
quote the offending value this way.
-/

namespace AlertLedger.Text.Quoted

/-- A code point between braces, in lower hexadecimal digits. -/
def codePoint (c : Char) : List Char :=
  ['\\', 'u', '\x7b'] ++ Nat.toDigits 16 c.toNat ++ ['\x7d']

/-- One character as it stands between the quotes. -/
def encodeChar (c : Char) : List Char :=
  if c = '"' then ['\\', '"']
  else if c = '\\' then ['\\', '\\']
  else if c = '\t' then ['\\', 't']
  else if c = '\n' then ['\\', 'n']
  else if c = '\r' then ['\\', 'r']
  else if c = '\x00' then ['\\', '0']
  else if isGraphic c then [c]
  else codePoint c

/-- The text between its quotes. -/
def encode (s : String) : String :=
  String.ofList ('"' :: s.toList.flatMap encodeChar ++ ['"'])

end AlertLedger.Text.Quoted
