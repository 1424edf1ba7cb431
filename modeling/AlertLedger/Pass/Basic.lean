import AlertLedger.Call.Course
import AlertLedger.Debounce
import AlertLedger.Pass.Report
import AlertLedger.Plan

/-!
# Passes

A pass brings the store in line with a batch of detections. It fetches the active records in
scope, plans, and carries the plan out: first the records to be written over, then the new alerts,
then the records that have gone stale. A new alert is announced before it is written, unless the
quiet window of its finding keeps it back; a look-up that fails keeps nothing back, and an
announcement that fails does not keep the alert from being written. A write that fails is noted,
and the pass goes on.
-/

namespace AlertLedger

/-- What a pass is given. -/
structure Pass where
  /-- The quiet window. -/
  window : Span
  /-- The clock of the pass. -/
  now : Instant
  /-- The ids for new alerts that have none, in the order of use. -/
  freshId : Nat → String
  batch : List Alert
  filters : List ScopeFilter

namespace Pass

/-! ## 1. Ids for new alerts -/

/-- New alerts, each with an id: its own, or else the next of the fresh ones. -/
def identify (freshId : Nat → String) : Nat → List Alert → List Alert
  | _, [] => []
  | n, a :: rest =>
    if a.hasId then a :: identify freshId n rest
    else { a with id := freshId n } :: identify freshId (n + 1) rest

/-- Whether a call hands the record with an id to the notifier or to the store. -/
def handsOver (id : String) : Call → Bool
  | .dispatch a => a.id = id
  | .upsert a => a.id = id
  | _ => false

/-- How many fresh ids the calls of a pass have handed over. -/
def issued (x : Pass) (calls : List Call) : Nat :=
  (List.range x.batch.length).countP fun n => calls.any (handsOver (x.freshId n))

/-! ## 2. Steps -/

/-- Writes over a record. -/
def update (p : Progress) (a : Alert) : Course Progress := do
  match ← Course.call (.upsert a) with
  | .ok () => return p.update a.key
  | .error e => return p.fail ⟨a.key, a.id, .upsert, e⟩

/-- Asks whether a new alert may be announced. Without a window nothing is asked, and a look-up
that fails permits it. -/
def mayAnnounce (window : Span) (now : Instant) (a : Alert) : Course Bool := do
  if window.isZero then return true
  else
    match ← Course.call (.searchResolved a.key) with
    | .ok records => return AlertLedger.mayAnnounce window a (lastResolved? records) now
    | .error _ => return true

/-- Announces a new alert, unless it is held back. -/
def announce (window : Span) (now : Instant) (p : Progress) (a : Alert) : Course Progress := do
  if ← mayAnnounce window now a then
    match ← Course.call (.dispatch a) with
    | .ok () => return p.notify
    | .error _ => return p.missNotice
  else return p.suppress

/-- Writes a new alert. -/
def create (p : Progress) (a : Alert) : Course Progress := do
  match ← Course.call (.upsert a) with
  | .ok () => return p.create a.key
  | .error e => return p.fail ⟨a.key, a.id, .upsert, e⟩

/-- Announces a new alert and then writes it. -/
def recordNew (window : Span) (now : Instant) (p : Progress) (a : Alert) : Course Progress := do
  let p ← announce window now p a
  create p a

/-- Retires a stale record. -/
def retire (p : Progress) (a : Alert) : Course Progress := do
  match ← Course.call (.markStale a.id) with
  | .ok () => return p.resolve a.key
  | .error e => return p.fail ⟨a.key, a.id, .markStale, e⟩

/-! ## 3. The pass -/

/-- Takes a step for each alert of a list, in order. -/
def each (step : Progress → Alert → Course Progress) : List Alert → Progress → Course Progress
  | [], p => return p
  | a :: rest, p => do
    let p ← step p a
    each step rest p

/-- Carries a plan out. -/
def carryOut (x : Pass) (plan : Plan) : Course Progress := do
  let p ← each update plan.updated (.start plan.unchanged.length)
  let p ← each (recordNew x.window x.now) (identify x.freshId 0 plan.new) p
  each retire plan.stale p

/-- The course of a pass. -/
def course (x : Pass) : Course (Except PassError Report) := do
  match ← Course.call (.search (.inScope x.filters)) with
  | .error e => return .error (.query e)
  | .ok records => do
    let p ← x.carryOut (.of x.batch records)
    return p.finish

/-- What a run of the course comes to. -/
def verdict {σ : Type} (r : Run σ (Except PassError Report)) : Except PassError Report :=
  match r.outcome with
  | .ok result => result
  | .error i => .error (.interrupted i)

/-- The run of a pass with collaborators, from a state. -/
def run {σ : Type} (x : Pass) (w : Collaborators σ) (s : σ) : Run σ (Except PassError Report) :=
  x.course.run w s

end Pass

end AlertLedger
