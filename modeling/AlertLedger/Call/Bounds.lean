import AlertLedger.Time.Span

/-!
# What ends a call

A call that has been started can end in four ways: it is answered, it outlives the time allowed
for one call, the deadline of the pass comes, or the pass is cancelled. Whichever comes first
counts. Of things that come at the same moment, an answer goes before the limit of the call, and
the limit before the deadline (`uncancelled`). Cancellation goes before them all, except before
what is due as soon as the call has been started (`ending`); so a call that is answered at once is
never cut off. All moments are counted in nanoseconds from the start of the call.
-/

namespace AlertLedger

/-- How a call ends. -/
inductive Ending where
  | answered
  | timedOut
  | deadline
  | cancelled
  deriving DecidableEq, Repr

/-- The moments at which a call would end, each as if it were the only one. -/
structure Bounds where
  /-- When the answer comes, if it ever does. -/
  answer : Option Nat
  /-- The time allowed for one call. -/
  limit : Option Nat
  /-- When the deadline of the pass comes; one that has passed comes at once. -/
  deadline : Option Nat
  /-- When the pass is cancelled, while the call is under way. -/
  cancel : Option Nat
  deriving DecidableEq, Repr

namespace Bounds

/-- The earlier of two endings; of two at one moment, the first. -/
def earlier (x y : Option (Nat × Ending)) : Option (Nat × Ending) :=
  match x, y with
  | none, y => y
  | x, none => x
  | some (m, e), some (n, f) => if m ≤ n then some (m, e) else some (n, f)

/-- What ends a call that is not cancelled, and when, or nothing if the call never ends. -/
def uncancelled (b : Bounds) : Option (Nat × Ending) :=
  earlier (b.answer.map (·, .answered)) <|
    earlier (b.limit.map (·, .timedOut)) (b.deadline.map (·, .deadline))

/-- What ends a call and when, or nothing if the call never ends. -/
def ending (b : Bounds) : Option (Nat × Ending) :=
  match b.uncancelled with
  | some (0, e) => some (0, e)
  | e => earlier (b.cancel.map (·, .cancelled)) e

end Bounds

end AlertLedger
