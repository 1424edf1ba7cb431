import AlertLedger.Alert.Basic
import AlertLedger.Time.Span

/-!
# The quiet window

A finding that comes back soon after it was resolved is recorded without being announced again.
The window is the shortest time from a resolution to the next announcement of the same finding; a
resolution in the future lies inside every window, and a window of no time holds nothing back.
-/

namespace AlertLedger

/-- The later resolved of two records; of two resolved at one instant, the second. -/
def laterResolved (a b : Alert) : Alert :=
  match a.resolvedAt, b.resolvedAt with
  | some s, some t => if t < s then a else b
  | _, _ => b

/-- The record resolved last among those that say when they were resolved. -/
def lastResolved? (records : List Alert) : Option Alert :=
  match records.filter (·.resolvedAt.isSome) with
  | [] => none
  | a :: rest => some (rest.foldl laterResolved a)

/-- The place of the record resolved last: the last of those resolved at that instant. -/
def lastResolvedPlace? (records : List Alert) : Option Nat := do
  let r ← lastResolved? records
  let hit ← (records.zipIdx.filter (·.1.resolvedAt = r.resolvedAt)).getLast?
  some hit.2

/-- Whether a finding may be announced at `now`, given the record of it that was resolved last. A
record of another finding, or one that does not say when it was resolved, holds nothing back. -/
def mayAnnounce (window : Span) (candidate : Alert) (last : Option Alert) (now : Instant) : Bool :=
  if window.isZero then true
  else
    match last with
    | none => true
    | some r =>
      if r.key ≠ candidate.key then true
      else
        match r.resolvedAt with
        | none => true
        | some t => (window.nanos : Int) ≤ now.since t

@[simp] theorem mayAnnounce_zero (candidate : Alert) (last : Option Alert) (now : Instant) :
    mayAnnounce .zero candidate last now = true := rfl

@[simp] theorem mayAnnounce_none (window : Span) (candidate : Alert) (now : Instant) :
    mayAnnounce window candidate none now = true := by
  unfold mayAnnounce
  split <;> rfl

/-- Only a resolution of the same finding inside the window holds an announcement back. -/
theorem mayAnnounce_eq_false_iff {window : Span} {candidate r : Alert} {now : Instant} :
    mayAnnounce window candidate (some r) now = false ↔
      window.isZero = false ∧ r.key = candidate.key ∧
        ∃ t, r.resolvedAt = some t ∧ now.since t < window.nanos := by
  unfold mayAnnounce
  cases hw : window.isZero <;> cases hr : r.resolvedAt <;> by_cases hk : r.key = candidate.key <;>
    simp [hk, hr]

end AlertLedger
