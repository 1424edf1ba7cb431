import AlertLedger.Call.Bounds
import AlertLedger.Call.Course

/-!
# Timed collaborators

Calls that take time, under a limit for each call and a deadline for the pass. How a collaborator
would conduct a call is given by its `Conduct`; `Collaborators.timed` lets the first of the bounds
end the call. A call that is not answered leaves no trace in the collaborator's state but that it
was started, and a pass that has been cancelled starts no call any more.

The limit and the deadline are kept by `Timers`. A timer is set for a moment of the pass, that of
the deadline or the one at which the time for a call is up, and goes off at this moment or after it;
when it does is up to the timers. `Timers.ticking` are those that look at the clock only so often.
-/

namespace AlertLedger

/-- How a call would go if nothing cut it off. -/
structure Conduct (σ α : Type) where
  /-- The nanoseconds to the answer, or nothing if it never comes. -/
  delay : Option Nat
  /-- Whether starting the call cancels the pass. -/
  cancels : Bool
  /-- The state once the call has been started. -/
  started : σ
  answer : α
  /-- The state once the call has been answered. -/
  answered : σ

/-- The state of timed collaborators. -/
structure Timed (σ : Type) where
  state : σ
  /-- The nanoseconds since the pass began. -/
  elapsed : Nat
  cancelled : Bool

/-- Timers, by when each goes off: the moment it is set for and the moment at which it goes off are
both counted in nanoseconds since the pass began. -/
structure Timers where
  goesOff : Nat → Nat
  /-- No timer goes off early. -/
  le_goesOff : ∀ moment, moment ≤ goesOff moment

namespace Timers

/-- Timers that go off at the moment they are set for. -/
def exact : Timers := ⟨id, Nat.le_refl⟩

/-- Timers that go off with the first tick that does not come before their moment, in a pass that
begins some nanoseconds after a tick. -/
def ticking (tick : Span) (offset : Nat) : Timers where
  goesOff moment := moment + (tick.nanos - (moment + offset) % tick.nanos) % tick.nanos
  le_goesOff moment := Nat.le_add_right moment _

/-- How long after a moment the timer that is set for another goes off; one that should have gone
off before it does so at once. -/
def wait (timers : Timers) (elapsed moment : Nat) : Nat := timers.goesOff moment - elapsed

end Timers

/-- The bounds of a call that starts at a moment of the pass. The timer of the call is set for the
moment at which the time allowed for it is up. -/
def Bounds.ofConduct {σ α : Type} (timers : Timers) (limit deadline : Option Span) (elapsed : Nat)
    (k : Conduct σ α) : Bounds where
  answer := k.delay
  limit := limit.map fun s => timers.wait elapsed (elapsed + s.nanos)
  deadline := deadline.map fun s => timers.wait elapsed s.nanos
  cancel := if k.cancels then some 0 else none

/-- Collaborators whose calls take time. -/
def Collaborators.timed {σ : Type} (timers : Timers) (limit deadline : Option Span)
    (conduct : σ → (c : Call) → Conduct σ c.Answer) : Collaborators (Timed σ) where
  attend t c :=
    if t.cancelled then (.refused .cancelled, t)
    else
      let k := conduct t.state c
      let started : Timed σ := ⟨k.started, t.elapsed, k.cancels⟩
      match (Bounds.ofConduct timers limit deadline t.elapsed k).ending with
      | some (d, .answered) => (.answered k.answer, ⟨k.answered, t.elapsed + d, k.cancels⟩)
      | some (d, .timedOut) =>
        (.answered (c.timeoutAnswer (limit.getD .zero)), { started with elapsed := t.elapsed + d })
      | some (d, .deadline) =>
        (.cut (.deadline c.operation), { started with elapsed := t.elapsed + d })
      | some (d, .cancelled) => (.cut .cancelled, { started with elapsed := t.elapsed + d })
      | none => (.cut (.unanswered c.operation), started)

end AlertLedger
