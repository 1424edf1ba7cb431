import AlertLedger.Time.Instant
import AlertLedger.Time.Span
import Mathlib.Algebra.Group.Nat.Defs

/-!
# Differences and order

Instants are ordered by `rank` and their differences are counted in days, and the two agree: a
later date has the greater day number (`dayNumber_lt`). So on instants outside leap seconds a
difference shrinks as its start moves on (`since_le_since`), and whatever lies a positive time
before such an instant is earlier, a leap second included (`lt_of_since_pos`). No two instants lie
further apart than the calendar is long (`since_lt_measurable`).
-/

namespace AlertLedger

namespace Date

/-! ## 1. Dates -/

theorem month_pos (a : Date) : 1 ≤ a.month := by
  refine Nat.pos_of_ne_zero fun h => ?_
  have hday := Nat.le_trans a.isDate.2.2.1 a.isDate.2.2.2
  rw [h] at hday
  exact Nat.not_succ_le_zero 0 hday

theorem daysBefore_succ (y : Int) (n : Nat) :
    daysBefore y (n + 2) = daysBefore y (n + 1) + daysInMonth y (n + 1) := by
  show (List.range (n + 1)).foldl _ 0 = _
  rw [List.range_succ, List.foldl_append]
  rfl

/-- A month is over before a later one begins. -/
theorem daysBefore_add_le (y : Int) {m n : Nat} (hm : 1 ≤ m) (h : m < n) :
    daysBefore y m + daysInMonth y m ≤ daysBefore y n := by
  obtain ⟨k, rfl⟩ : ∃ k, m = k + 1 := ⟨m - 1, by omega⟩
  induction n with
  | zero => omega
  | succ n ih =>
    rcases Nat.lt_succ_iff_lt_or_eq.mp h with hlt | heq
    · obtain ⟨j, rfl⟩ : ∃ j, n = j + 1 := ⟨n - 1, by omega⟩
      rw [daysBefore_succ y j]
      exact Nat.le_trans (ih hlt) (Nat.le_add_right _ _)
    · exact Nat.le_of_eq (by rw [← heq, daysBefore_succ])

/-- The days of a year. -/
theorem daysBefore_thirteen (y : Int) : daysBefore y 13 = if isLeapYear y then 366 else 365 := by
  cases h : isLeapYear y <;> simp [daysBefore, daysInMonth, List.range_succ, h]

/-- A date lies within its year. -/
theorem daysBefore_add_day_le (a : Date) :
    daysBefore a.year a.month + a.day ≤ if isLeapYear a.year then 366 else 365 := by
  have hmonth : a.month < 13 := Nat.lt_succ_of_le a.month_le
  have hle := daysBefore_add_le a.year a.month_pos hmonth
  rw [daysBefore_thirteen] at hle
  exact Nat.le_trans (Nat.add_le_add_left a.isDate.2.2.2 _) hle

/-- The days of the years before a year, as `dayNumber` counts them. -/
def daysBeforeYear (y : Int) : Int := 365 * (y - 1) + (y - 1) / 4 - (y - 1) / 100 + (y - 1) / 400

theorem daysBeforeYear_succ (y : Int) :
    daysBeforeYear (y + 1) = daysBeforeYear y + if isLeapYear y then 366 else 365 := by
  have h4 : y / 4 = (y - 1) / 4 + if y % 4 = 0 then 1 else 0 := by split <;> omega
  have h100 : y / 100 = (y - 1) / 100 + if y % 100 = 0 then 1 else 0 := by split <;> omega
  have h400 : y / 400 = (y - 1) / 400 + if y % 400 = 0 then 1 else 0 := by split <;> omega
  simp only [daysBeforeYear, Int.add_sub_cancel, h4, h100, h400, isLeapYear, Bool.and_eq_true,
    Bool.or_eq_true, decide_eq_true_eq]
  by_cases hy4 : y % 4 = 0 <;> by_cases hy100 : y % 100 = 0 <;> by_cases hy400 : y % 400 = 0 <;>
    simp only [hy4, hy100, hy400, if_true, if_false] <;> simp <;> omega

/-- A year is over before a later one begins. -/
theorem daysBeforeYear_add_le {y z : Int} (h : y < z) :
    daysBeforeYear y + (if isLeapYear y then 366 else 365) ≤ daysBeforeYear z := by
  obtain ⟨n, rfl⟩ := Int.le.dest h
  induction n with
  | zero =>
    rw [← daysBeforeYear_succ]
    simp
  | succ n ih =>
    have hle := ih (by omega)
    have hsucc := daysBeforeYear_succ (y + 1 + n)
    have hpos : (0 : Int) ≤ if isLeapYear (y + 1 + n) then 366 else 365 := by split <;> decide
    rw [Int.natCast_succ, ← Int.add_assoc, hsucc]
    omega

theorem dayNumber_eq (a : Date) : a.dayNumber =
    daysBeforeYear a.year + daysBefore a.year a.month + a.day - 719163 := rfl

/-- **A later date has the greater day number.** -/
theorem dayNumber_lt {a b : Date} (h : a.rank < b.rank) : a.dayNumber < b.dayNumber := by
  have hma := a.month_le
  have hmb := b.month_le
  have hda := a.day_le
  have hdb := b.day_le
  have hpos := b.isDate.2.2.1
  simp only [rank] at h
  rw [dayNumber_eq, dayNumber_eq]
  rcases Int.lt_trichotomy a.year b.year with hy | hy | hy
  · have hyear := daysBeforeYear_add_le hy
    have hday := a.daysBefore_add_day_le
    cases hleap : isLeapYear a.year <;>
      simp only [hleap, if_true, if_false, Bool.false_eq_true] at hyear hday <;> omega
  · have hm : a.month < b.month ∨ a.month = b.month ∧ a.day < b.day := by omega
    rcases hm with hm | ⟨hm, hd⟩
    · have hle := daysBefore_add_le a.year a.month_pos hm
      have hlast := a.isDate.2.2.2
      rw [← hy]
      omega
    · rw [hy, hm]
      omega
  · omega

/-- The calendar spans fewer than 200 million days. -/
theorem dayNumber_bounds (d : Date) : -100000000 < d.dayNumber ∧ d.dayNumber < 100000000 := by
  have hlower := d.isDate.1
  have hupper := d.isDate.2.1
  have hday := d.daysBefore_add_day_le
  have hyear : daysBefore d.year d.month + d.day ≤ 366 := by
    refine Nat.le_trans hday ?_
    split <;> decide
  rw [dayNumber_eq, daysBeforeYear]
  simp only [firstYear, lastYear] at hlower hupper
  omega

end Date

namespace Instant

/-! ## 2. Instants -/

theorem le_refl (t : Instant) : t ≤ t := Int.le_refl _

theorem le_trans {s t u : Instant} (h : s ≤ t) (h' : t ≤ u) : s ≤ u := Int.le_trans h h'

/-- The order, part by part. -/
theorem lt_iff_parts {s t : Instant} : s < t ↔ s.date.rank < t.date.rank ∨
    (s.date = t.date ∧ (s.second < t.second ∨ (s.second = t.second ∧ s.nano < t.nano))) := by
  have hs := s.isTimeOfDay
  have ht := t.isTimeOfDay
  simp only [IsTimeOfDay, secondsPerDay, nanosPerSecond] at hs ht
  have heq : s.date = t.date ↔ s.date.rank = t.date.rank :=
    ⟨fun e => by rw [e], Date.rank_injective⟩
  rw [lt_iff, heq]
  simp only [rank, secondsPerDay, nanosPerSecond]
  omega

theorem not_lt_iff {s t : Instant} : ¬ s < t ↔ t ≤ s := by
  rw [lt_iff, le_iff, Int.not_lt]

theorem nano_lt_of_not_isLeap {t : Instant} (h : t.isLeap = false) : t.nano < nanosPerSecond := by
  simpa [isLeap] using h

/-- **A difference shrinks as its start moves on.** -/
theorem since_le_since {s t u : Instant} (hs : s.isLeap = false) (ht : t.isLeap = false)
    (hu : u.isLeap = false) (h : t ≤ u) : s.since u ≤ s.since t := by
  have hnt := nano_lt_of_not_isLeap ht
  have hst := t.isTimeOfDay.1
  have hsu := u.isTimeOfDay.1
  rw [since_eq_of_no_leap hs ht, since_eq_of_no_leap hs hu]
  rw [← not_lt_iff, lt_iff_parts] at h
  simp only [unixSeconds, secondsPerDay, nanosPerSecond] at *
  rcases Int.lt_trichotomy t.date.rank u.date.rank with hd | hd | hd
  · have hday := Date.dayNumber_lt hd
    omega
  · have e := Date.rank_injective hd
    have hparts : ¬ (u.second < t.second ∨ (u.second = t.second ∧ u.nano < t.nano)) :=
      fun hp => h (.inr ⟨e.symm, hp⟩)
    rw [e]
    omega
  · exact absurd (.inl hd) h

/-- **What lies a positive time before an instant outside leap seconds is earlier.** -/
theorem lt_of_since_pos {s t : Instant} (hs : s.isLeap = false) (h : 0 < s.since t) : t < s := by
  have hns := nano_lt_of_not_isLeap hs
  have hss := s.isTimeOfDay.1
  have hst := t.isTimeOfDay.1
  rw [lt_iff_parts]
  rcases Int.lt_trichotomy t.date.rank s.date.rank with hd | hd | hd
  · exact .inl hd
  · have e := Date.rank_injective hd
    refine .inr ⟨e, ?_⟩
    simp only [since, leapCorrection, unixSeconds, e, hs, secondsPerDay, nanosPerSecond] at *
    split at h <;> omega
  · have hday := Date.dayNumber_lt hd
    cases hleap : t.isLeap with
    | false =>
      rw [since_eq_of_no_leap hs hleap] at h
      simp only [unixSeconds, secondsPerDay, nanosPerSecond] at *
      omega
    | true =>
      have hnt : nanosPerSecond ≤ t.nano := by simpa [isLeap] using hleap
      simp only [since, leapCorrection, unixSeconds, hs, secondsPerDay, nanosPerSecond] at *
      split at h <;> omega

/-! ## 3. How far instants lie apart -/

/-- The nanoseconds from the start of 1970, leap seconds not counted. -/
def unixNanos (t : Instant) : Int := t.unixSeconds * nanosPerSecond + t.nano

/-- Outside leap seconds a difference is one of plain numbers. -/
theorem since_eq_sub {s t : Instant} (hs : s.isLeap = false) (ht : t.isLeap = false) :
    s.since t = s.unixNanos - t.unixNanos := by
  rw [since_eq_of_no_leap hs ht, unixNanos, unixNanos, Int.sub_mul]
  omega

/-- The longest length that differences are measured in: 2^63 - 1 milliseconds. -/
def measurable : Span := .ofMillis (2 ^ 63 - 1)

/-- **No two instants lie further apart than differences are measured.** -/
theorem since_lt_measurable (s t : Instant) : s.since t < measurable.nanos := by
  have hs := s.date.dayNumber_bounds
  have ht := t.date.dayNumber_bounds
  have hsecond := s.isTimeOfDay
  have hcorrection : leapCorrection s t ≤ 1 := by
    unfold leapCorrection
    split
    · decide
    · split <;> decide
  simp only [IsTimeOfDay, secondsPerDay, nanosPerSecond] at hsecond
  simp only [since, unixSeconds, secondsPerDay, nanosPerSecond, measurable, Span.ofMillis,
    Span.millisecond]
  omega

end Instant

end AlertLedger
