/-!
# Random identifiers

A random identifier of 128 bits in hexadecimal digits, in groups of 8, 4, 4, 4 and 12. Six of the
bits are fixed, the version (4) and the variant (binary 10), and the other 122 are random.
-/

namespace AlertLedger.Text.Uuid

/-- The last digits of a number in hexadecimal, as many as asked for. -/
def hex (width n : Nat) : List Char :=
  let digits := Nat.toDigits 16 n
  (digits.drop (digits.length - width)).leftpad width '0'

/-- The identifier with these random bits. -/
def text (bits : Nat) : String :=
  String.ofList <|
    hex 8 (bits >>> 90) ++ '-' :: hex 4 (bits >>> 74) ++ '-' :: '4' :: hex 3 (bits >>> 62)
      ++ '-' :: hex 4 (0x8000 + (bits >>> 48) % 0x4000) ++ '-' :: hex 12 bits

end AlertLedger.Text.Uuid
