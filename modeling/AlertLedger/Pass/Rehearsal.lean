import AlertLedger.Call.Prompt
import AlertLedger.Call.Timed
import AlertLedger.Pass.Basic

/-!
# Rehearsals

A pass against a real store with faults put in by script: a fault names the calls it is meant for,
by kind, target and number, and says whether they cancel the pass, how long they take, and what
they answer instead. The first fault that fits a call is applied to it. Time is virtual: nothing
takes time but what a fault delays, and no fault delays a call for more than thirty years. The
store may know the ids of new alerts by other names than the pass does.
-/

namespace AlertLedger

/-- The kinds of calls that faults tell apart. -/
inductive CallKind where
  | search | searchResolved | dispatch | upsert | markStale
  deriving DecidableEq, Repr

namespace Call

/-- The kind of a call. -/
def kind : Call → CallKind
  | .search _ => .search
  | .searchResolved _ => .searchResolved
  | .dispatch _ => .dispatch
  | .upsert _ => .upsert
  | .markStale _ => .markStale

/-- What a call is about: a policy, or the record to be retired. -/
def target : Call → String
  | .search q => q.policy.getD ""
  | .searchResolved k => k.policy
  | .dispatch a => a.policy.id
  | .upsert a => a.policy.id
  | .markStale id => id

end Call

/-- What a call answers in a rehearsal. -/
inductive FaultAnswer where
  /-- What the store and the notifier answer. -/
  | real
  | storeError (e : StoreError)
  | notifyError (e : NotifyError)
  /-- The records that a search is to find. -/
  | found (records : List Alert)
  deriving DecidableEq

/-- A fault put in by script. -/
structure Fault where
  kind : CallKind
  target : Option String
  /-- Which call of its kind is meant, counted from one. -/
  number : Option Nat
  cancels : Bool
  delay : Span
  answer : FaultAnswer
  deriving DecidableEq

/-- What is laid down for a rehearsal. -/
structure Script where
  faults : List Fault
  /-- The name by which the store knows the id of an alert that is written. -/
  idName : String → String

namespace Fault

/-- A call that nothing goes wrong with. -/
def absent (k : CallKind) : Fault := ⟨k, none, none, false, .zero, .real⟩

/-- The longest delay: thirty years of 365 days. -/
def longestDelay : Span := .ofParts (30 * 365 * 86400) 0

/-- Whether a fault is meant for a call that is the `n`th of its kind. -/
def fits (f : Fault) (c : Call) (n : Nat) : Bool :=
  f.kind = c.kind && (f.target = none || f.target = some c.target)
    && (f.number = none || f.number = some n)

end Fault

/-- The state of a rehearsal: the store, and the kinds of the calls started so far. -/
structure Rehearsal where
  store : Store
  started : List CallKind

namespace Rehearsal

/-- What a fault makes a call answer, and the store after it. Announcements always succeed by
themselves. -/
def perform (now : Instant) (idName : String → String) (s : Store) (answer : FaultAnswer)
    (c : Call) : c.Answer × Store :=
  match c, answer with
  | .search _, .storeError e => (.error e, s)
  | .search _, .found records => (.ok records, s)
  | .searchResolved _, .storeError e => (.error e, s)
  | .searchResolved _, .found records => (.ok records, s)
  | .dispatch _, .notifyError e => (.error e, s)
  | .upsert _, .storeError e => (.error e, s)
  | .markStale _, .storeError e => (.error e, s)
  | .upsert a, _ => s.answer now (fun _ => .ok ()) (.upsert { a with id := idName a.id })
  | c, _ => s.answer now (fun _ => .ok ()) c

/-- How a call goes under a script. -/
def conduct (now : Instant) (script : Script) (r : Rehearsal) (c : Call) :
    Conduct Rehearsal c.Answer :=
  let started := c.kind :: r.started
  let fault := (script.faults.find? (·.fits c (started.count c.kind))).getD (.absent c.kind)
  let done := perform now script.idName r.store fault.answer c
  { delay := some (min fault.delay.nanos Fault.longestDelay.nanos)
    cancels := fault.cancels
    started := ⟨r.store, started⟩
    answer := done.1
    answered := ⟨done.2, started⟩ }

/-- The timers of a rehearsal. Its passes begin on a tick. -/
def timers : Timers := .ticking (.ofMillis 1) 0

/-- The collaborators of a rehearsal. -/
def collaborators (now : Instant) (script : Script) (limit deadline : Option Span) :
    Collaborators (Timed Rehearsal) :=
  .timed timers limit deadline (conduct now script)

/-- The rehearsal of a pass with a store. The pass may have been cancelled beforehand. -/
def run (x : Pass) (script : Script) (limit deadline : Option Span) (cancelled : Bool)
    (s : Store) : Run (Timed Rehearsal) (Except PassError Report) :=
  x.run (collaborators x.now script limit deadline) ⟨⟨s, []⟩, 0, cancelled⟩

end Rehearsal

end AlertLedger
