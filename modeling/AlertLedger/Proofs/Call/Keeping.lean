import AlertLedger.Call.Prompt
import AlertLedger.Call.Timed
import AlertLedger.Proofs.Store.Contents

/-!
# Collaborators that keep a store

Collaborators keep a store (`Collaborators.Keep`) when every call to them is served by the store,
or fails, or is cut off, or is not started any more. Which of these happens is up to them, call by
call, and so is whether a call that fails or is cut off has its effect all the same. Prompt
collaborators serve every call (`prompt_keep`); limits and deadlines are no more than such
failures and interruptions (`timed_keep`).

* `Course.Only` says which calls a course can make, whoever attends to them, and its runs make no
  others (`Course.Only.of_mem_calls`);
* `Store.Attends.store_eq`: either way a call has its effect on the store, or none.
-/

namespace AlertLedger

/-! ## 1. The calls of a course -/

namespace Call

/-- Whether a call asks for a change of the store. -/
def writes : Call → Bool
  | .upsert _ => true
  | .markStale _ => true
  | _ => false

end Call

namespace Course

variable {α β σ : Type}

/-- All calls that a course can make satisfy `P`. -/
def Only (P : Call → Prop) : Course α → Prop
  | .done _ => True
  | .ask c next => P c ∧ ∀ answer, (next answer).Only P

theorem Only.bind {P : Call → Prop} {x : Course α} {k : α → Course β} (hx : x.Only P)
    (hk : ∀ a, (k a).Only P) : (x >>= k).Only P := by
  induction x with
  | done a => exact hk a
  | ask c next ih => exact ⟨hx.1, fun answer => ih answer (hx.2 answer)⟩

theorem Only.imp {P Q : Call → Prop} {x : Course α} (hx : x.Only P) (h : ∀ c, P c → Q c) :
    x.Only Q := by
  induction x with
  | done a => trivial
  | ask c next ih => exact ⟨h c hx.1, fun answer => ih answer (hx.2 answer)⟩

/-- A course that only reads. -/
abbrev Reads (x : Course α) : Prop := x.Only fun c => c.writes = false

/-- **The run of a course makes only calls that the course can make.** -/
theorem Only.of_mem_calls {P : Call → Prop} {x : Course α} (hx : x.Only P) {w : Collaborators σ}
    {t : σ} {c : Call} (hc : c ∈ (x.run w t).calls) : P c := by
  induction x generalizing t with
  | done a => cases hc
  | ask d next ih =>
    rw [run] at hc
    split at hc
    · rcases List.mem_cons.mp hc with rfl | hc
      · exact hx.1
      · exact ih _ (hx.2 _) hc
    · rw [List.mem_singleton.mp hc]
      exact hx.1
    · cases hc

end Course

/-! ## 2. Collaborators that keep a store -/

/-- The answer of a call that has failed. -/
def Call.failure (e : StoreError) (f : NotifyError) : (c : Call) → c.Answer
  | .search _ => .error e
  | .searchResolved _ => .error e
  | .dispatch _ => .error f
  | .upsert _ => .error e
  | .markStale _ => .error e

/-- The store after a call that has been served, where access is granted. -/
def Store.effect (now : Instant) (s : Store) : Call → Store
  | .upsert a => s.add a
  | .markStale id => s.retire now id
  | _ => s

/-- The store after a call that has not been served: the effect may have landed or not. -/
def Store.landed (now : Instant) (s : Store) (c : Call) (b : Bool) : Store :=
  if b then s.effect now c else s

/-- What may become of a call, and of the store with it. -/
inductive Store.Attends (now : Instant) (s : Store) (c : Call) :
    Attendance c.Answer → Store → Prop where
  | served (announce : Alert → Except NotifyError Unit) :
    Attends now s c (.answered (s.answer now announce c).1) (s.answer now announce c).2
  | failed (e : StoreError) (f : NotifyError) (b : Bool) :
    Attends now s c (.answered (c.failure e f)) (s.landed now c b)
  | cut (i : Interruption) (b : Bool) : Attends now s c (.cut i) (s.landed now c b)
  | refused (i : Interruption) : Attends now s c (.refused i) s

/-- Collaborators with a store in their state, who attend to each call in one of these ways. -/
def Collaborators.Keep {σ : Type} (w : Collaborators σ) (store : σ → Store) (now : Instant) :
    Prop :=
  ∀ t c, (store t).Attends now c (w.attend t c).1 (store (w.attend t c).2)

theorem prompt_keep (now : Instant) (announce : Alert → Except NotifyError Unit) :
    (Collaborators.prompt (fun _ => now) announce).Keep id now := fun _ _ => .served announce

/-- Bounds of time only turn calls into failures or cut them off. -/
theorem timed_keep {σ : Type} (store : σ → Store) {now : Instant} {timers : Timers}
    {limit deadline : Option Span} {conduct : σ → (c : Call) → Conduct σ c.Answer}
    (hstarted : ∀ t c, store (conduct t c).started = store t)
    (hanswered : ∀ t c, (store t).Attends now c (.answered (conduct t c).answer)
      (store (conduct t c).answered)) :
    (Collaborators.timed timers limit deadline conduct).Keep (fun t => store t.state) now := by
  intro t c
  have hcut : ∀ i, (store t.state).Attends now c (.cut i) (store (conduct t.state c).started) := by
    intro i
    rw [hstarted]
    exact .cut i false
  have htimeout : ∀ d, c.timeoutAnswer d = c.failure (.ofTimeout ⟨c.operation, d⟩)
      (.timeout ⟨c.operation, d⟩) := fun d => by cases c <;> rfl
  unfold Collaborators.timed
  simp only
  split
  · exact .refused .cancelled
  · split
    · exact hanswered t.state c
    · rw [htimeout]
      simp only [hstarted]
      exact .failed _ _ false
    · exact hcut _
    · exact hcut _
    · exact hcut _

/-- A call that is served has its effect where access is granted, and none where it is revoked. -/
theorem Store.answer_snd (now : Instant) (announce : Alert → Except NotifyError Unit) (s : Store)
    (c : Call) : (s.answer now announce c).2 = if s.denied then s else s.effect now c := by
  cases c with
  | search q => simp [answer, effect]
  | searchResolved k => simp [answer, effect]
  | dispatch a => simp [answer, effect]
  | upsert a =>
    show (s.afterWrite (s.upsert a)).2 = if s.denied then s else s.add a
    rw [upsert_eq]
    split_ifs with hd ha
    · rfl
    · rw [add, dif_neg (not_not.mpr ha)]
      rfl
    · rfl
  | markStale id =>
    show (s.afterWrite (s.markStale id now)).2 = if s.denied then s else s.retire now id
    rw [markStale_eq]
    split_ifs with hd h
    · rfl
    · rw [retire_of_none h]
      rfl
    · rfl

/-- A call that is attended to has its effect on the store, or none. -/
theorem Store.Attends.store_eq {now : Instant} {s s' : Store} {c : Call}
    {x : Attendance c.Answer} (h : s.Attends now c x s') : s' = s ∨ s' = s.effect now c := by
  have hlanded : ∀ b, s.landed now c b = s ∨ s.landed now c b = s.effect now c := by
    intro b
    cases b with
    | false => exact .inl rfl
    | true => exact .inr rfl
  cases h with
  | served announce =>
    rw [answer_snd]
    split
    · exact .inl rfl
    · exact .inr rfl
  | failed e f b => exact hlanded b
  | cut i b => exact hlanded b
  | refused => exact .inl rfl

/-- A search is answered with what the store lists, or with an error. -/
theorem Store.Attends.answered_search {now : Instant} {s s' : Store} {q : Query}
    {answer : Except StoreError (List Alert)}
    (h : s.Attends now (.search q) (.answered answer) s') :
    s' = s ∧ (answer = .ok (s.select q) ∨ ∃ e, answer = .error e) := by
  cases h with
  | served announce =>
    refine ⟨rfl, ?_⟩
    show s.search q = .ok (s.select q) ∨ ∃ e, s.search q = .error e
    unfold search
    split
    · exact .inr ⟨_, rfl⟩
    · exact .inl rfl
  | failed e f b => exact ⟨by cases b <;> rfl, .inr ⟨e, rfl⟩⟩

/-- A call that asks for no change has no effect. -/
theorem Store.effect_of_reads {now : Instant} {s : Store} {c : Call} (h : c.writes = false) :
    s.effect now c = s := by
  cases c with
  | upsert a => cases h
  | markStale id => cases h
  | _ => rfl

@[simp] theorem Store.denied_effect (now : Instant) (s : Store) (c : Call) :
    (s.effect now c).denied = s.denied := by
  cases c with
  | upsert a => exact denied_add s a
  | markStale id => exact denied_retire now s id
  | _ => rfl

/-! ## 3. Runs -/

section Runs

variable {α σ : Type} {w : Collaborators σ} {store : σ → Store} {now : Instant}

/-- No course has access revoked or granted. -/
theorem denied_run (hw : w.Keep store now) (x : Course α) (t : σ) :
    (store (x.run w t).final).denied = (store t).denied := by
  induction x generalizing t with
  | done a => rfl
  | ask c next ih =>
    have hstep : (store (w.attend t c).2).denied = (store t).denied := by
      rcases (hw t c).store_eq with h | h <;> simp [h]
    rw [Course.run]
    split <;> rename_i e <;> rw [e] at hstep
    · exact (ih _ _).trans hstep
    · exact hstep
    · exact hstep

theorem Course.run_bind_of_ok {β : Type} {x : Course α} {t t' : σ} {calls : List Call} {a : α}
    (h : x.run w t = ⟨calls, .ok a, t'⟩) (k : α → Course β) :
    (x >>= k).run w t = ((k a).run w t').after calls := by
  rw [Course.run_bind, h]

/-- With prompt collaborators a question is answered at once. -/
theorem run_ask_prompt (clock : Call → Instant) (announce : Alert → Except NotifyError Unit)
    (c : Call) (next : c.Answer → Course α) (s : Store) :
    (Course.ask c next).run (.prompt clock announce) s =
      ((next (s.answer (clock c) announce c).1).run (.prompt clock announce)
        (s.answer (clock c) announce c).2).after [c] := rfl

end Runs

end AlertLedger
