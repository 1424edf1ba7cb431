import AlertLedger.Json.Printer
import AlertLedger.Json.Reader
import Mathlib.Algebra.Group.Nat.Defs

/-!
# Strings and numbers read back

What is written for a string or an integer is read back as such, whatever text comes after it
(`readString_renderString`, `readNumber_renderInteger`). A string closes itself with its quote. A
numeral ends where the text goes on with something that cannot belong to it (`EndsNumeral`), and is
read back if a double holds it exactly.
-/

namespace AlertLedger

/-! ## 1. Digits -/

namespace Text.Decimal

/-- A number without leading zeros starts with one only if it is zero. -/
theorem head?_digits_ne_zero {n : Nat} (h : 0 < n) : (digits n).head? ≠ some '0' := by
  induction n using Nat.strongRecOn with
  | ind n ih =>
    by_cases hn : n < 10
    · have hdigit : ∀ d, d < 10 → 0 < d → d.digitChar ≠ '0' := by decide
      rw [digits_of_lt_ten hn, List.head?_cons, ne_eq, Option.some.injEq]
      exact hdigit n hn h
    · have e : n = 10 * (n / 10) + n % 10 := by omega
      have hpos : 0 < n / 10 := by omega
      have hrest := ih (n / 10) (by omega) hpos
      obtain ⟨c, cs, hc⟩ := List.exists_cons_of_ne_nil (digits_ne_nil (n / 10))
      rw [hc] at hrest
      rw [e, digits_ten_mul_add hpos (by omega), hc]
      exact hrest

/-- Whether a run of digits cannot go on with this text. -/
def EndsRun (rest : List Char) : Prop := ∀ c, rest.head? = some c → isDigit c = false

theorem endsRun_cons {c : Char} (h : isDigit c = false) (rest : List Char) :
    EndsRun (c :: rest) := fun _ e => Option.some.inj e ▸ h

section Runs

variable {ds rest : List Char} (hds : ds.all isDigit = true) (hrest : EndsRun rest)
include hds hrest

/-- A run of digits ends where the text goes on with something else. -/
theorem takeWhile_append : (ds ++ rest).takeWhile isDigit = ds := by
  rw [List.takeWhile_append_of_pos (List.all_eq_true.mp hds)]
  cases rest with
  | nil => simp
  | cons c rest => simp [hrest c rfl]

theorem dropWhile_append : (ds ++ rest).dropWhile isDigit = rest := by
  rw [List.dropWhile_append_of_pos (List.all_eq_true.mp hds)]
  cases rest with
  | nil => rfl
  | cons c rest => simp [hrest c rfl]

end Runs

/-- Further digits make a number no smaller. -/
theorem le_foldl (n : Nat) (cs : List Char) :
    n ≤ cs.foldl (fun n c => 10 * n + digitValue c) n := by
  induction cs generalizing n with
  | nil => exact Nat.le_refl n
  | cons c cs ih => exact Nat.le_trans (by omega) (ih (10 * n + digitValue c))

end Text.Decimal

namespace Text.Hexadecimal

theorem digitValue?_digitChar {d : Nat} (h : d < 16) : digitValue? d.digitChar = some d := by
  have hall : ∀ d, d < 16 → digitValue? d.digitChar = some d := by decide
  exact hall d h

end Text.Hexadecimal

namespace Json

open Text.Decimal (digits isDigit value)

/-! ## 2. Strings -/

/-- The four digits of a code below 256. -/
theorem leftpad_toDigits {n : Nat} (h : n < 256) : (Nat.toDigits 16 n).leftpad 4 '0' =
    ['0', '0', (n / 16).digitChar, (n % 16).digitChar] := by
  by_cases hn : n < 16
  · have hhigh : n / 16 = 0 := by omega
    have hlow : n % 16 = n := by omega
    rw [Nat.toDigits_of_lt_base hn, hhigh, hlow]
    rfl
  · have hdigits : Nat.toDigits 16 (16 * (n / 16) + n % 16) =
        [(n / 16).digitChar] ++ [(n % 16).digitChar] := by
      rw [← Nat.toDigits_append_toDigits (by decide) (by omega) (by omega),
        Nat.toDigits_of_lt_base (by omega), Nat.toDigits_of_lt_base (by omega)]
    rw [Nat.div_add_mod] at hdigits
    rw [hdigits]
    rfl

theorem readCodePoint_escaped {c : Char} (h : c.toNat < 0x20) (rest : List Char) :
    readCodePoint ((Nat.toDigits 16 c.toNat).leftpad 4 '0' ++ rest) = some (some c, rest) := by
  have hzero : Text.Hexadecimal.digitValue? '0' = some 0 := by decide
  have hhigh := Text.Hexadecimal.digitValue?_digitChar (d := c.toNat / 16) (by omega)
  have hlow := Text.Hexadecimal.digitValue?_digitChar (d := c.toNat % 16) (by omega)
  have hunit : ((0 * 16 + 0) * 16 + c.toNat / 16) * 16 + c.toNat % 16 = c.toNat := by omega
  have hread : readUnit ((Nat.toDigits 16 c.toNat).leftpad 4 '0' ++ rest) =
      some (c.toNat, rest) := by
    rw [leftpad_toDigits (by omega)]
    simp only [List.cons_append, List.nil_append, readUnit, hzero, hhigh, hlow, hunit,
      Option.bind_eq_bind, Option.bind_some]
  have hsurrogate : isHighSurrogate c.toNat = false ∧ isLowSurrogate c.toNat = false := by
    constructor <;> simp [isHighSurrogate, isLowSurrogate] <;> omega
  simp only [readCodePoint, hread, Option.bind_eq_bind, Option.bind_some, hsurrogate.1,
    hsurrogate.2, Bool.false_eq_true, if_false, Char.ofNat_toNat]

/-- A character stands in a string by a letter after a backslash, by its code, or as it is. -/
theorem escapeChar_cases (c : Char) :
    (∃ e, escapeChar c = ['\\', e] ∧ e ≠ 'u' ∧ shortEscape? e = some c) ∨
      (escapeChar c = escapeControl c ∧ c.toNat < 0x20) ∨
      (escapeChar c = [c] ∧ c ≠ '"' ∧ c ≠ '\\' ∧ ¬ c.toNat < 0x20) := by
  by_cases hshort : c ∈ ['"', '\\', '\x08', '\x0c', '\n', '\r', '\t']
  · simp only [List.mem_cons, List.not_mem_nil, or_false] at hshort
    left
    rcases hshort with rfl | rfl | rfl | rfl | rfl | rfl | rfl <;>
      exact ⟨_, rfl, by decide, by decide⟩
  · simp only [List.mem_cons, List.not_mem_nil, or_false, not_or] at hshort
    obtain ⟨hquote, hslash, hb, hf, hn, hr, ht⟩ := hshort
    have hescape : escapeChar c = if c.toNat < 0x20 then escapeControl c else [c] := by
      simp only [escapeChar, hquote, hslash, hb, hf, hn, hr, ht, if_false]
    rw [hescape]
    by_cases hcontrol : c.toNat < 0x20
    · exact .inr (.inl ⟨if_pos hcontrol, hcontrol⟩)
    · exact .inr (.inr ⟨if_neg hcontrol, hquote, hslash, hcontrol⟩)

/-- **Every character is read back from the way it stands in a string.** -/
theorem readChar_escapeChar (c : Char) (rest : List Char) :
    readChar (escapeChar c ++ rest) = some (some c, rest) := by
  obtain ⟨e, he, hne, hshort⟩ | ⟨he, hcontrol⟩ | ⟨he, hquote, hslash, hcontrol⟩ :=
    escapeChar_cases c
  · rw [he]
    show readChar ('\\' :: e :: rest) = _
    have hread : readChar ('\\' :: e :: rest) = (shortEscape? e).map fun e => (some e, rest) := by
      unfold readChar
      split <;> grind
    rw [hread, hshort]
    rfl
  · rw [he]
    exact readCodePoint_escaped hcontrol rest
  · rw [he]
    show readChar (c :: rest) = _
    unfold readChar
    split <;> simp_all

/-- No character stands in a string as a bare quote. -/
theorem exists_escapeChar_eq_cons (c : Char) : ∃ d ds, escapeChar c = d :: ds ∧ d ≠ '"' := by
  obtain ⟨e, he, _, _⟩ | ⟨he, _⟩ | ⟨he, hquote, _, _⟩ := escapeChar_cases c
  · exact ⟨_, _, he, by decide⟩
  · exact ⟨_, _, he, by decide⟩
  · exact ⟨_, _, he, hquote⟩

theorem readChars_of_ne_quote (n : Nat) {d : Char} (h : d ≠ '"') (cs : List Char) :
    readChars (n + 1) (d :: cs) = (readChar (d :: cs)).bind fun (c, rest) =>
      (readChars n rest).bind fun (s, rest) => some (c :: s, rest) := by
  rw [readChars]
  · rfl
  · exact fun rest e => h (List.cons.inj e).1

theorem readChars_flatMap {cs : List Char} {n : Nat} (h : cs.length < n) (rest : List Char) :
    readChars n (cs.flatMap escapeChar ++ '"' :: rest) = some (cs.map some, rest) := by
  induction cs generalizing n with
  | nil =>
    obtain ⟨n, rfl⟩ := Nat.exists_eq_succ_of_ne_zero (Nat.ne_of_gt h)
    rfl
  | cons c cs ih =>
    obtain ⟨n, rfl⟩ := Nat.exists_eq_succ_of_ne_zero (Nat.ne_of_gt (Nat.zero_lt_of_lt h))
    obtain ⟨d, ds, hd, hne⟩ := exists_escapeChar_eq_cons c
    have hchar := readChar_escapeChar c (cs.flatMap escapeChar ++ '"' :: rest)
    rw [hd, List.cons_append] at hchar
    rw [List.flatMap_cons, hd, List.append_assoc, List.cons_append,
      readChars_of_ne_quote n hne, hchar, Option.bind_some]
    simp only [ih (Nat.lt_of_succ_lt_succ h), Option.bind_some, List.map_cons]

theorem length_le_flatMap_escapeChar (cs : List Char) :
    cs.length ≤ (cs.flatMap escapeChar).length := by
  induction cs with
  | nil => exact Nat.le_refl _
  | cons c cs ih =>
    obtain ⟨d, ds, hd, _⟩ := exists_escapeChar_eq_cons c
    rw [List.flatMap_cons, List.length_append, hd, List.length_cons, List.length_cons]
    omega

theorem mapM_id_map_some {α : Type} (as : List α) : (as.map some).mapM id = some as := by
  induction as with
  | nil => rfl
  | cons a as ih => simp [ih]

/-- **A string is read back.** -/
theorem readString_renderString (s : String) (rest : List Char) :
    ∃ text, renderString s ++ rest = '"' :: text ∧ readString text = some (some s, rest) := by
  refine ⟨s.toList.flatMap escapeChar ++ '"' :: rest, by simp [renderString], ?_⟩
  have hlength : s.toList.length <
      (s.toList.flatMap escapeChar ++ '"' :: rest).length + 1 := by
    have hle := length_le_flatMap_escapeChar s.toList
    rw [List.length_append]
    omega
  simp only [readString, readChars_flatMap hlength, Option.map_some, mapM_id_map_some,
    String.ofList_toList]

/-! ## 3. Numbers -/

/-- Whether a numeral cannot go on with this text. -/
def EndsNumeral (rest : List Char) : Prop :=
  ∀ c, rest.head? = some c → isDigit c = false ∧ c ≠ '.' ∧ c ≠ 'e' ∧ c ≠ 'E'

theorem endsNumeral_cons {c : Char} (h : isDigit c = false ∧ c ≠ '.' ∧ c ≠ 'e' ∧ c ≠ 'E')
    (rest : List Char) : EndsNumeral (c :: rest) := fun _ e => Option.some.inj e ▸ h

theorem endsNumeral_nil : EndsNumeral [] := fun _ e => by cases e

/-- Digits that stay within 64 bits are all taken. -/
theorem gather_digits {s : Nat} {ds : List Char}
    (h : ds.foldl (fun n c => 10 * n + Text.Decimal.digitValue c) s < UInt64.size) :
    Magnitude.gather s ds =
      (ds.foldl (fun n c => 10 * n + Text.Decimal.digitValue c) s, ds.length) := by
  induction ds generalizing s with
  | nil => rfl
  | cons d ds ih =>
    have hlonger : 10 * s + Text.Decimal.digitValue d < UInt64.size :=
      Nat.lt_of_le_of_lt (Text.Decimal.le_foldl _ ds) h
    rw [Magnitude.gather]
    simp only [if_pos hlonger, ih h, List.foldl_cons, List.length_cons]

/-- **An integer that a double holds exactly is in range.** -/
theorem isFinite_digits {n : Nat} (h : n < 2 ^ 53) :
    Magnitude.isFinite (digits n) [] [] = true := by
  have hgather : Magnitude.gather 0 (digits n) = (n, (digits n).length) := by
    have hvalue : (digits n).foldl (fun n c => 10 * n + Text.Decimal.digitValue c) 0 = n :=
      Text.Decimal.value_digits n
    have hsize : n < UInt64.size := Nat.lt_trans h (by decide)
    rw [gather_digits (by rw [hvalue]; exact hsize), hvalue]
  have hlog : n.log2 ≤ 52 := by
    by_cases hn : n = 0
    · rw [hn]
      decide
    · exact Nat.le_of_lt_succ ((Nat.log2_lt hn).mpr h)
  have hdouble : Magnitude.toDouble n = n := Magnitude.toDouble_of_log2_le hlog
  have hone : Magnitude.toDouble (Magnitude.powerOfTen 0) = 1 :=
    Magnitude.toDouble_of_log2_le (by decide)
  have hlarge : n < Magnitude.tooLarge := Nat.lt_trans h (by decide)
  have hexponent : (((digits n).length - (digits n).length : Int) - (0 : Nat) +
      Magnitude.exponentValue []) = 0 := by
    simp [Magnitude.exponentValue]
  simp only [Magnitude.isFinite, hgather, Magnitude.gather, hexponent, Magnitude.isInRange,
    Int.toNat_zero, hdouble, hone, Nat.mul_one, hlarge]
  simp

theorem exists_digits_eq_cons (n : Nat) : ∃ c cs, digits n = c :: cs ∧ isDigit c = true := by
  obtain ⟨c, cs, hc⟩ := List.exists_cons_of_ne_nil (Text.Decimal.digits_ne_nil n)
  have hall := Text.Decimal.all_isDigit_digits n
  rw [hc, List.all_cons, Bool.and_eq_true] at hall
  exact ⟨c, cs, hc, hall.1⟩

section Numerals

variable {n : Nat} {rest : List Char} (hn : n < 2 ^ 53) (hrest : EndsNumeral rest)
include hrest

theorem readWhole_digits : readWhole (digits n ++ rest) = some (digits n, rest) := by
  have hend : Text.Decimal.EndsRun rest := fun c hc => (hrest c hc).1
  have hall := Text.Decimal.all_isDigit_digits n
  have hread : readDigits (digits n ++ rest) = some (digits n, rest) := by
    rw [readDigits, Text.Decimal.takeWhile_append hall hend,
      Text.Decimal.dropWhile_append hall hend]
    split
    · rename_i e
      exact absurd e (Text.Decimal.digits_ne_nil n)
    · rfl
  have hzero : ¬ ((digits n).head? = some '0' ∧ (digits n).length ≠ 1) := by
    rintro ⟨hhead, hlength⟩
    rcases Nat.eq_zero_or_pos n with rfl | hpos
    · exact hlength rfl
    · exact Text.Decimal.head?_digits_ne_zero hpos hhead
  simp only [readWhole, hread, Option.bind_eq_bind, Option.bind_some, if_neg hzero]

include hn

theorem readUnsigned_digits (negative : Bool) (h : ¬ (negative = true ∧ n = 0)) :
    readUnsigned negative (digits n ++ rest) =
      some (.integer (if negative then -n else n), rest) := by
  have hfraction : readFraction rest = some ([], rest) := by
    unfold readFraction
    split
    · exact absurd rfl (hrest '.' rfl).2.1
    · rfl
  have hexponent : readExponent rest = some ([], rest) := by
    unfold readExponent
    split
    · exact absurd rfl (hrest 'e' rfl).2.2.1
    · exact absurd rfl (hrest 'E' rfl).2.2.2
    · rfl
  simp only [readUnsigned, readWhole_digits hrest, hfraction, hexponent, Option.bind_eq_bind,
    Option.bind_some, ofNumeral, List.drop_nil, isFinite_digits hn, Text.Decimal.value_digits]
  simp [h]

end Numerals

/-- **An integer that a double holds exactly is read back**, unless the text goes on with what could
belong to it. -/
theorem readNumber_renderInteger {n : Int} (hn : n.natAbs < 2 ^ 53) {rest : List Char}
    (hrest : EndsNumeral rest) :
    readNumber (renderInteger n ++ rest) = some (.integer n, rest) := by
  cases n with
  | ofNat n =>
    have hread := readUnsigned_digits (n := n) hn hrest false (by simp)
    show readNumber (digits n ++ rest) = _
    obtain ⟨c, cs, hc, hdigit⟩ := exists_digits_eq_cons n
    rw [hc, List.cons_append] at hread ⊢
    unfold readNumber
    split
    · rename_i e
      rw [(List.cons.inj e).1] at hdigit
      cases hdigit
    · exact hread
  | negSucc n =>
    have hread := readUnsigned_digits (n := n + 1) hn hrest true (by simp)
    exact hread

end Json

end AlertLedger
