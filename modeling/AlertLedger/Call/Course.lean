import AlertLedger.Call.Basic

/-!
# Courses

The course of a pass is a finite tree: it is done, or it asks a question and goes on as the answer
has it. What the collaborators answer is not part of the course; it is supplied by their
`Collaborators`, who may also interrupt it. A `Run` is what came of both: the calls that were
started, in order, how it ended, and the collaborators' state after it. An interrupted run starts
no call after the one that was interrupted.
-/

namespace AlertLedger

/-! ## 1. Courses -/

/-- A sequence of questions, each depending on the answers before it. -/
inductive Course (α : Type) where
  | done (a : α)
  | ask (c : Call) (next : c.Answer → Course α)

namespace Course

variable {α β : Type}

/-- One course after another. -/
def bind : Course α → (α → Course β) → Course β
  | .done a, k => k a
  | .ask c next, k => .ask c fun answer => (next answer).bind k

instance : Monad Course where
  pure := .done
  bind := .bind

/-- The course that asks one question. -/
def call (c : Call) : Course c.Answer := .ask c .done

@[simp] theorem pure_def (a : α) : (pure a : Course α) = .done a := rfl

@[simp] theorem done_bind (a : α) (k : α → Course β) : (Course.done a >>= k) = k a := rfl

@[simp] theorem ask_bind (c : Call) (next : c.Answer → Course α) (k : α → Course β) :
    (Course.ask c next >>= k) = .ask c fun answer => next answer >>= k := rfl

@[simp] theorem bind_done (x : Course α) : (x >>= fun a => Course.done a) = x := by
  induction x with
  | done a => rfl
  | ask c next ih => simp [ih]

end Course

/-! ## 2. Collaborators -/

/-- What becomes of a call. -/
inductive Attendance (α : Type) where
  | answered (a : α)
  /-- The call was started, and cut off. -/
  | cut (i : Interruption)
  /-- The call was not started any more. -/
  | refused (i : Interruption)

/-- Those who attend to the calls of a pass, with a state of their own. -/
structure Collaborators (σ : Type) where
  attend : σ → (c : Call) → Attendance c.Answer × σ

/-- What came of a course. -/
structure Run (σ α : Type) where
  /-- The calls that were started, in order. -/
  calls : List Call
  outcome : Except Interruption α
  final : σ

/-- The run of a course with collaborators, from a state. -/
def Course.run {σ α : Type} (w : Collaborators σ) : Course α → σ → Run σ α
  | .done a, s => ⟨[], .ok a, s⟩
  | .ask c next, s =>
    match w.attend s c with
    | (.answered answer, s) =>
      let rest := (next answer).run w s
      { rest with calls := c :: rest.calls }
    | (.cut i, s) => ⟨[c], .error i, s⟩
    | (.refused i, s) => ⟨[], .error i, s⟩

/-- A run with other calls in front of its own. -/
def Run.after {σ α : Type} (r : Run σ α) (calls : List Call) : Run σ α :=
  { r with calls := calls ++ r.calls }

@[simp] theorem Run.after_nil {σ α : Type} (r : Run σ α) : r.after [] = r := rfl

@[simp] theorem Course.run_done {σ α : Type} (w : Collaborators σ) (a : α) (s : σ) :
    (Course.done a).run w s = ⟨[], .ok a, s⟩ := rfl

/-- **Two courses in a row run one after the other**, unless the first is interrupted. -/
theorem Course.run_bind {σ α β : Type} (w : Collaborators σ) (x : Course α) (k : α → Course β)
    (s : σ) :
    (x >>= k).run w s =
      match (x.run w s).outcome with
      | .ok a => ((k a).run w (x.run w s).final).after (x.run w s).calls
      | .error i => ⟨(x.run w s).calls, .error i, (x.run w s).final⟩ := by
  induction x generalizing s with
  | done a => rfl
  | ask c next ih =>
    simp only [ask_bind, Course.run]
    rcases w.attend s c with ⟨attendance, s'⟩
    cases attendance with
    | cut i => rfl
    | refused i => rfl
    | answered a =>
      simp only [ih a s']
      cases ((next a).run w s').outcome <;> rfl

end AlertLedger
