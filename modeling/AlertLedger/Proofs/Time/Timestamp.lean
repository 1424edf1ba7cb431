import AlertLedger.Proofs.Json.Tokens
import AlertLedger.Time.Timestamp

/-!
# Timestamps read back

Every instant is read back from its written form (`readTimestamp?_text`): years beyond four digits
and before the first with their sign, fractions with the places that are left out, and leap seconds
as the sixtieth of their minute. Each number is a run of digits that ends at its separator
(`readDigitRun_append`), so the parts are read back one by one.
-/

namespace AlertLedger

/-! ## 1. Padded digits -/

namespace Text.Decimal

theorem value_replicate_append (k : Nat) (ds : List Char) :
    value (List.replicate k '0' ++ ds) = value ds := by
  have hzero : digitValue '0' = 0 := by decide
  induction k with
  | zero => rfl
  | succ k ih =>
    rw [List.replicate_succ, List.cons_append, ← ih]
    simp [value, hzero]

/-- **A padded number reads back.** -/
@[simp] theorem value_padded (width n : Nat) : value (padded width n) = n := by
  rw [padded, List.leftpad, value_replicate_append, value_digits]

theorem value_append_replicate (ds : List Char) (k : Nat) :
    value (ds ++ List.replicate k '0') = value ds * 10 ^ k := by
  have hzero : digitValue '0' = 0 := by decide
  induction k with
  | zero => simp
  | succ k ih =>
    rw [List.replicate_succ', ← List.append_assoc, value_append_singleton, ih, hzero, Nat.pow_succ,
      Nat.add_zero, Nat.mul_comm 10, Nat.mul_assoc]

theorem all_isDigit_padded (width n : Nat) : (padded width n).all isDigit = true := by
  have hzero : isDigit '0' = true := by decide
  rw [padded, List.leftpad, List.all_append, all_isDigit_digits, Bool.and_true, List.all_replicate,
    hzero]
  exact ite_self true

theorem padded_ne_nil (width n : Nat) : padded width n ≠ [] := by
  rw [padded, List.leftpad]
  exact List.append_ne_nil_of_right_ne_nil _ (digits_ne_nil n)

theorem exists_padded_eq_cons (width n : Nat) :
    ∃ c cs, padded width n = c :: cs ∧ isDigit c = true := by
  obtain ⟨c, cs, hc⟩ := List.exists_cons_of_ne_nil (padded_ne_nil width n)
  have hall := all_isDigit_padded width n
  rw [hc, List.all_cons, Bool.and_eq_true] at hall
  exact ⟨c, cs, hc, hall.1⟩

theorem length_padded {width n : Nat} (hwidth : 0 < width) (hn : n < 10 ^ width) :
    (padded width n).length = width := by
  have hle : (digits n).length ≤ width := (Nat.length_toDigits_le_iff (by decide) hwidth).mpr hn
  rw [padded, List.length_leftpad]
  omega

theorem isBlank_eq_false_of_isDigit {c : Char} (h : isDigit c = true) : Text.isBlank c = false := by
  have hrange : 48 ≤ c.toNat ∧ c.toNat ≤ 57 := by
    simpa [isDigit, Char.le_def, UInt32.le_iff_toNat_le] using h
  simp only [Text.isBlank, Bool.or_eq_false_iff, Bool.and_eq_false_iff, decide_eq_false_iff_not,
    beq_eq_false_iff_ne]
  omega

end Text.Decimal

open Text (dropBlanks isBlank)
open Text.Decimal (EndsRun endsRun_cons isDigit padded value)

/-! ## 2. Numbers and separators -/

section Runs

variable {ds rest : List Char} (hds : ds.all isDigit = true) (hne : ds ≠ [])
  (hrest : EndsRun rest)
include hds hne

/-- No blank stands before a digit. -/
theorem dropBlanks_append : dropBlanks (ds ++ rest) = ds ++ rest := by
  obtain ⟨c, cs, rfl⟩ := List.exists_cons_of_ne_nil hne
  have hc : isDigit c = true := by simp_all
  exact Text.dropBlanks_cons_of_not_blank (Text.Decimal.isBlank_eq_false_of_isDigit hc)

include hrest

/-- A run of digits is read up to what ends it. -/
theorem readDigitRun_append {limit : Nat} (hlimit : ds.length ≤ limit) :
    readDigitRun limit (ds ++ rest) = some (ds, rest) := by
  have htake : (ds ++ rest).take limit = ds ++ rest.take (limit - ds.length) := by
    rw [List.take_append, List.take_of_length_le hlimit]
  have hend : EndsRun (rest.take (limit - ds.length)) := by
    intro c hc
    apply hrest c
    cases rest with
    | nil => simp at hc
    | cons d rest =>
      cases hk : limit - ds.length with
      | zero => simp [hk] at hc
      | succ k => simpa [hk] using hc
  rw [readDigitRun, htake, Text.Decimal.takeWhile_append hds hend]
  split
  · exact absurd rfl hne
  · rw [List.drop_left]

end Runs

/-- A number of two digits. -/
theorem readPair_padded {n : Nat} (hn : n < 100) {rest : List Char} (hrest : EndsRun rest) :
    readPair (padded 2 n ++ rest) = some (n, rest) := by
  have hall := Text.Decimal.all_isDigit_padded 2 n
  have hne := Text.Decimal.padded_ne_nil 2 n
  have hlength : (padded 2 n).length = 2 := Text.Decimal.length_padded (by decide) hn
  rw [readPair, dropBlanks_append hall hne,
    readDigitRun_append hall hne hrest (Nat.le_of_eq hlength)]
  simp only [Option.map_some, Text.Decimal.value_padded]

/-- A year, with or without its sign. -/
theorem readYear_yearText (y : Int) {rest : List Char} (hrest : EndsRun rest) :
    readYear (yearText y ++ rest) = some (y, rest) := by
  have hall := Text.Decimal.all_isDigit_padded 4 y.natAbs
  have hne := Text.Decimal.padded_ne_nil 4 y.natAbs
  obtain ⟨c, cs, hc, hdigit⟩ := Text.Decimal.exists_padded_eq_cons 4 y.natAbs
  have hlong : (padded 4 y.natAbs).length ≤ (padded 4 y.natAbs ++ rest).length := by
    rw [List.length_append]
    omega
  by_cases hneg : y < 0
  · have htext : yearText y = '-' :: padded 4 y.natAbs := if_pos hneg
    rw [htext, List.cons_append, readYear, Text.dropBlanks_cons_of_not_blank (by decide)]
    simp only [readDigitRun_append hall hne hrest hlong, Option.map_some,
      Text.Decimal.value_padded]
    congr 2
    omega
  by_cases hlarge : 9999 < y
  · have htext : yearText y = '+' :: padded 4 y.natAbs := by
      rw [yearText, if_neg hneg, if_pos hlarge]
    rw [htext, List.cons_append, readYear, Text.dropBlanks_cons_of_not_blank (by decide)]
    simp only [readDigitRun_append hall hne hrest hlong, Option.map_some,
      Text.Decimal.value_padded]
    congr 2
    omega
  · have htext : yearText y = padded 4 y.natAbs := by rw [yearText, if_neg hneg, if_neg hlarge]
    have hlength : (padded 4 y.natAbs).length = 4 :=
      Text.Decimal.length_padded (by decide) (by omega)
    rw [htext, readYear, dropBlanks_append hall hne]
    split
    · rename_i e
      rw [hc, List.cons_append] at e
      rw [(List.cons.inj e).1] at hdigit
      cases hdigit
    · rename_i e
      rw [hc, List.cons_append] at e
      rw [(List.cons.inj e).1] at hdigit
      cases hdigit
    · rw [readDigitRun_append hall hne hrest (Nat.le_of_eq hlength)]
      simp only [Option.map_some, Text.Decimal.value_padded]
      congr 2
      omega

theorem readSeparator_cons {c : Char} (h : isBlank c = false) (rest : List Char) :
    readSeparator c (c :: rest) = some rest := by
  rw [readSeparator, Text.dropBlanks_cons_of_not_blank h]
  exact if_pos rfl

/-- A fraction with as many places as it needs. -/
theorem readFractionNanos_padded {width m : Nat} (hpos : 0 < width) (hwidth : width ≤ 9)
    (hm : m < 10 ^ width) {rest : List Char} (hrest : EndsRun rest) :
    readFractionNanos ('.' :: (padded width m ++ rest)) = some (m * 10 ^ (9 - width), rest) := by
  have hall := Text.Decimal.all_isDigit_padded width m
  have hne := Text.Decimal.padded_ne_nil width m
  have hlength := Text.Decimal.length_padded hpos hm
  have hvalue : value ((padded width m).rightpad 9 '0') = m * 10 ^ (9 - width) := by
    rw [List.rightpad, hlength, Text.Decimal.value_append_replicate, Text.Decimal.value_padded]
  have hdrop : rest.dropWhile isDigit = rest := @Text.Decimal.dropWhile_append [] rest rfl hrest
  simp only [readFractionNanos,
    readDigitRun_append hall hne hrest (Nat.le_trans (Nat.le_of_eq hlength) hwidth),
    Option.map_some, hvalue, hdrop]

namespace Instant

/-- A fraction starts with its point. -/
theorem fractionText_cases (t : Instant) :
    t.fractionText = [] ∨ ∃ ds, t.fractionText = '.' :: ds := by
  unfold fractionText
  simp only
  split
  · exact .inl rfl
  · split
    · exact .inr ⟨_, rfl⟩
    · split <;> exact .inr ⟨_, rfl⟩

theorem readFractionNanos_fractionText (t : Instant) :
    readFractionNanos (t.fractionText ++ ['Z']) = some (t.nano % nanosPerSecond, ['Z']) := by
  have hlt : t.nano % nanosPerSecond < 10 ^ 9 := Nat.mod_lt _ (by decide)
  have hrest : EndsRun ['Z'] := endsRun_cons (by decide) []
  unfold fractionText
  generalize t.nano % nanosPerSecond = n at hlt
  by_cases hzero : n = 0
  · simp [hzero, readFractionNanos]
  by_cases hmilli : n % 1000000 = 0
  · simp only [hzero, hmilli, if_true, if_false, List.cons_append]
    rw [readFractionNanos_padded (by decide) (by decide) (by omega) hrest]
    congr 2
    omega
  by_cases hmicro : n % 1000 = 0
  · simp only [hzero, hmilli, hmicro, if_true, if_false, List.cons_append]
    rw [readFractionNanos_padded (by decide) (by decide) (by omega) hrest]
    congr 2
    omega
  · simp only [hzero, hmilli, hmicro, if_false, List.cons_append]
    rw [readFractionNanos_padded (by decide) (by decide) hlt hrest]
    congr 2
    omega

/-! ## 3. Whole timestamps -/

/-- An instant is what a clock shows that does not run ahead. -/
theorem ofLocal?_zero (date : Date) {second : Nat} (h : second < secondsPerDay) (nano : Nat) :
    ofLocal? date second nano 0 = of? date second nano := by
  have hneg : ¬ ((second : Int) - 0 < 0) := by omega
  have hday : (second : Int) - 0 < secondsPerDay := by omega
  have hnat : ((second : Int) - 0).toNat = second := by omega
  simp only [ofLocal?, hneg, hday, hnat, if_true, if_false]

/-- A clock of UTC shows an instant by the parts that are written. -/
theorem ofClock?_parts (t : Instant) :
    ofClock? t.date.year t.date.month t.date.day (t.second / 3600) (t.second / 60 % 60)
      (t.second % 60 + if t.isLeap then 1 else 0) (t.nano % nanosPerSecond) 0 = some t := by
  obtain ⟨hsecond, hnano, hleap⟩ := t.isTimeOfDay
  have hparts : t.second / 3600 * 3600 + t.second / 60 % 60 * 60 + t.second % 60 = t.second := by
    omega
  rw [ofClock?, Date.of?_self, Option.bind_eq_bind, Option.bind_some]
  simp only [secondsPerDay] at hsecond
  cases h : t.isLeap with
  | false =>
    have hwithin : t.nano < nanosPerSecond := by simpa [isLeap] using h
    have hvalid : ¬ (24 ≤ t.second / 3600 ∨ 60 ≤ t.second / 60 % 60 ∨ 61 ≤ t.second % 60) := by
      omega
    have hregular : ¬ t.second % 60 = 60 := by omega
    simp only [Bool.false_eq_true, if_false, Nat.add_zero, hvalid, hregular, Nat.sub_zero,
      Nat.zero_mul, hparts, Nat.mod_eq_of_lt hwithin, ofLocal?_zero t.date hsecond, of?_self]
  | true =>
    have hbeyond : nanosPerSecond ≤ t.nano := of_decide_eq_true h
    have hlast : t.second % 60 = 59 := hleap hbeyond
    have hvalid : ¬ (24 ≤ t.second / 3600 ∨ 60 ≤ t.second / 60 % 60 ∨ 61 ≤ 60) := by omega
    have hsixty : t.second % 60 + 1 = 60 := by omega
    have hshown : t.second / 3600 * 3600 + t.second / 60 % 60 * 60 + 60 - 1 = t.second := by omega
    have hrest : t.nano % nanosPerSecond + 1 * nanosPerSecond = t.nano := by
      simp only [nanosPerSecond] at hnano hbeyond ⊢
      omega
    simp only [if_true, hsixty, hvalid, if_false, hshown, hrest, ofLocal?_zero t.date hsecond,
      of?_self]

end Instant

/-- **Every instant is read back from its timestamp.** -/
theorem readTimestamp?_text (t : Instant) : readTimestamp? t.text = some t := by
  have hmonth := t.date.month_le
  have hday := t.date.day_le
  have hsecond : t.second < 86400 := t.isTimeOfDay.1
  have hleap : (t.second % 60 + if t.isLeap then 1 else 0) < 100 := by split <;> omega
  have hfraction : EndsRun (t.fractionText ++ ['Z']) := by
    obtain e | ⟨ds, e⟩ := t.fractionText_cases
    · rw [e]
      exact endsRun_cons (by decide) _
    · rw [e]
      exact endsRun_cons (by decide) _
  have hoffset : readOffset (dropBlanks ['Z']) = some (0, []) := by decide
  simp only [readTimestamp?, Instant.text, Instant.dateText, Instant.timeText, String.toList_ofList,
    List.append_assoc, List.cons_append, Option.bind_eq_bind, Option.bind_some,
    readYear_yearText _ (endsRun_cons (c := '-') (by decide) _),
    readSeparator_cons (c := '-') (by decide), readSeparator_cons (c := ':') (by decide),
    readPair_padded (n := t.date.month) (by omega) (endsRun_cons (c := '-') (by decide) _),
    readPair_padded (n := t.date.day) (by omega) (endsRun_cons (c := 'T') (by decide) _),
    readPair_padded (n := t.second / 3600) (by omega) (endsRun_cons (c := ':') (by decide) _),
    readPair_padded (n := t.second / 60 % 60) (by omega) (endsRun_cons (c := ':') (by decide) _),
    readPair_padded hleap hfraction, Instant.readFractionNanos_fractionText, readMiddle,
    hoffset, Text.dropBlanks_nil, if_true, t.ofClock?_parts]

end AlertLedger
