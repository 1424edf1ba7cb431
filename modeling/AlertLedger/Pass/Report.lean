import AlertLedger.Ascending
import AlertLedger.Failure
import AlertLedger.Json.Basic
import AlertLedger.Alert.Form

/-!
# Reports

What a pass did: how many records it created, updated, resolved and left as they were, how many
new alerts were announced or held back, and the keys of all records it changed, in ascending
order. `Progress` is a report in the making, with the writes that have failed so far.
-/

namespace AlertLedger

/-- What a pass did. -/
structure Report where
  /-- The keys of records that were created, updated or resolved, ascending. -/
  modified : List Key
  created : Nat
  updated : Nat
  resolved : Nat
  unchanged : Nat
  /-- New alerts that were announced. -/
  notified : Nat
  /-- New alerts that the quiet window kept from being announced. -/
  suppressed : Nat
  /-- New alerts whose announcement failed. -/
  notifyFailures : Nat
  deriving DecidableEq, Repr

namespace Report

/-- The report of a pass that found a number of unchanged keys and has done nothing yet. -/
def start (unchanged : Nat) : Report := ⟨[], 0, 0, 0, unchanged, 0, 0, 0⟩

/-- Whether a pass changed no record. -/
def isEmpty (r : Report) : Bool := r.modified = []

/-- A report with one changed key more. -/
def touch (r : Report) (k : Key) : Report := { r with modified := Ascending.insert k r.modified }

/-- A report as an object. -/
def toJson (r : Report) : Json :=
  .object [("modified", .ofList Key.toJson r.modified), ("created", .ofNat r.created),
    ("updated", .ofNat r.updated), ("resolved", .ofNat r.resolved),
    ("unchanged", .ofNat r.unchanged), ("notified", .ofNat r.notified),
    ("suppressed", .ofNat r.suppressed), ("notify_failures", .ofNat r.notifyFailures)]

end Report

/-- A report in the making. -/
structure Progress where
  report : Report
  /-- The writes that failed, in order. -/
  failures : List WriteFailure
  deriving DecidableEq, Repr

namespace Progress

/-- The progress of a pass that has done nothing yet. -/
def start (unchanged : Nat) : Progress := ⟨.start unchanged, []⟩

/-- A record was written over. -/
def update (p : Progress) (k : Key) : Progress :=
  { p with report := { p.report.touch k with updated := p.report.updated + 1 } }

/-- A record was created. -/
def create (p : Progress) (k : Key) : Progress :=
  { p with report := { p.report.touch k with created := p.report.created + 1 } }

/-- A record was resolved. -/
def resolve (p : Progress) (k : Key) : Progress :=
  { p with report := { p.report.touch k with resolved := p.report.resolved + 1 } }

/-- A new alert was announced. -/
def notify (p : Progress) : Progress :=
  { p with report := { p.report with notified := p.report.notified + 1 } }

/-- The announcement of a new alert was held back. -/
def suppress (p : Progress) : Progress :=
  { p with report := { p.report with suppressed := p.report.suppressed + 1 } }

/-- The announcement of a new alert failed. -/
def missNotice (p : Progress) : Progress :=
  { p with report := { p.report with notifyFailures := p.report.notifyFailures + 1 } }

/-- A write failed. -/
def fail (p : Progress) (f : WriteFailure) : Progress := { p with failures := p.failures ++ [f] }

/-- What a pass comes to when nothing is left to do. -/
def finish (p : Progress) : Except PassError Report :=
  match p.failures with
  | [] => .ok p.report
  | failures => .error (.persist failures)

end Progress

end AlertLedger
