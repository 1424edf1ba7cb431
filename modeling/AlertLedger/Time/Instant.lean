import AlertLedger.Time.Date

/-!
# Instants

A point in time on the clock of UTC, to the nanosecond. The last second of a minute may be a leap
second: its nanoseconds then run on from 10^9. Instants are ordered by `rank`, date first, then
second, then nanosecond. `since` is the time that has passed between two of them; on instants
outside leap seconds it is the plain difference (`since_eq_of_no_leap`). A clock never shows a leap
second (`isLeap_onClock`); only timestamps name one.
-/

namespace AlertLedger

/-- The nanoseconds of a second. -/
def nanosPerSecond : Nat := 1000000000

/-- The seconds of a day. -/
def secondsPerDay : Nat := 86400

/-- The numbers that name a point in a day. -/
def IsTimeOfDay (second nano : Nat) : Prop :=
  second < secondsPerDay ∧ nano < 2 * nanosPerSecond ∧
    (nanosPerSecond ≤ nano → second % 60 = 59)

instance (second nano : Nat) : Decidable (IsTimeOfDay second nano) := by
  unfold IsTimeOfDay
  infer_instance

/-- A point in time. -/
structure Instant where
  date : Date
  /-- The second of the day. -/
  second : Nat
  /-- The nanosecond of the second, from 10^9 on in a leap second. -/
  nano : Nat
  isTimeOfDay : IsTimeOfDay second nano
  deriving DecidableEq

namespace Instant

/-! ## 1. Making instants -/

/-- The point of a day with these numbers, if there is one. -/
def of? (date : Date) (second nano : Nat) : Option Instant :=
  if h : IsTimeOfDay second nano then some ⟨date, second, nano, h⟩ else none

@[simp] theorem of?_self (t : Instant) : of? t.date t.second t.nano = some t := by
  simp [of?, t.isTimeOfDay]

/-- The instant at which a clock that runs ahead of UTC by `ahead` seconds, less than a day, shows
this date and time. -/
def ofLocal? (date : Date) (second nano : Nat) (ahead : Int) : Option Instant :=
  let s : Int := second - ahead
  if s < 0 then date.prev?.bind fun d => of? d (s + secondsPerDay).toNat nano
  else if s < secondsPerDay then of? date s.toNat nano
  else date.next?.bind fun d => of? d (s - secondsPerDay).toNat nano

/-- Whether an instant lies in a leap second. -/
def isLeap (t : Instant) : Bool := nanosPerSecond ≤ t.nano

/-! ## 2. Order -/

/-- A number that grows with the instant: date, then second, then nanosecond. -/
def rank (t : Instant) : Int :=
  (t.date.rank * secondsPerDay + t.second) * (2 * nanosPerSecond) + t.nano

instance : LT Instant := ⟨fun s t => s.rank < t.rank⟩

instance : LE Instant := ⟨fun s t => s.rank ≤ t.rank⟩

instance (s t : Instant) : Decidable (s < t) := inferInstanceAs (Decidable (s.rank < t.rank))

instance (s t : Instant) : Decidable (s ≤ t) := inferInstanceAs (Decidable (s.rank ≤ t.rank))

theorem lt_iff {s t : Instant} : s < t ↔ s.rank < t.rank := Iff.rfl

theorem le_iff {s t : Instant} : s ≤ t ↔ s.rank ≤ t.rank := Iff.rfl

theorem rank_injective {s t : Instant} (h : s.rank = t.rank) : s = t := by
  have hs := s.isTimeOfDay
  have ht := t.isTimeOfDay
  obtain ⟨d, x, n, _⟩ := s
  obtain ⟨d', x', n', _⟩ := t
  simp only [rank, IsTimeOfDay, secondsPerDay, nanosPerSecond] at h hs ht
  have e : d.rank = d'.rank ∧ x = x' ∧ n = n' := by omega
  obtain ⟨hd, rfl, rfl⟩ := e
  have := Date.rank_injective hd
  subst this
  rfl

/-! ## 3. Differences -/

/-- The seconds from the start of 1970, leap seconds not counted. -/
def unixSeconds (t : Instant) : Int := t.date.dayNumber * secondsPerDay + t.second

/-- The whole second by which the plain difference is off where a leap second comes first in the
day: its nanoseconds run past 10^9, and to the second after it they do not count twice. -/
def leapCorrection (s t : Instant) : Int :=
  if t.second < s.second ∧ t.isLeap then 1
  else if s.second < t.second ∧ s.isLeap then -1
  else 0

/-- The nanoseconds from `t` to `s`, below zero if `s` is the earlier one. -/
def since (s t : Instant) : Int :=
  (s.unixSeconds - t.unixSeconds + leapCorrection s t) * nanosPerSecond + (s.nano - t.nano)

theorem since_eq_of_no_leap {s t : Instant} (hs : s.isLeap = false) (ht : t.isLeap = false) :
    s.since t = (s.unixSeconds - t.unixSeconds) * nanosPerSecond + (s.nano - t.nano) := by
  simp [since, leapCorrection, hs, ht]

@[simp] theorem since_self (t : Instant) : t.since t = 0 := by
  simp [since, leapCorrection]

/-! ## 4. Clocks -/

/-- What a clock that knows no leap seconds shows: it stands still in one, a nanosecond before its
start. -/
def onClock (t : Instant) : Instant where
  date := t.date
  second := t.second
  nano := min t.nano (nanosPerSecond - 1)
  isTimeOfDay := by
    have h := t.isTimeOfDay
    simp only [IsTimeOfDay, nanosPerSecond] at h ⊢
    omega

@[simp] theorem isLeap_onClock (t : Instant) : t.onClock.isLeap = false := by
  refine decide_eq_false ?_
  simp only [onClock, nanosPerSecond]
  omega

end Instant

end AlertLedger
