import AlertLedger.Proofs.Call.Trace

/-!
# Courses that are interrupted

A course that nobody interrupts goes all the way: through exchanges that are all answered to its
result (`Course.Goes`, `goes_trace`). Collaborators who interrupt are compared with those who give
the same answers, and some answer or other where the first ones interrupt
(`Collaborators.persisting`). The two part only at the interruption:

* `calls_run_isPrefix`: the calls of the interrupted run are the first ones of the other;
* `exists_completes`: so are the exchanges that were completed, after which there is at most the
  call that was cut off; and if an interrupted call has no effect, the store is at the end where
  the exchanges completed have led it (`Course.Completes`).
-/

namespace AlertLedger

variable {α β σ : Type} {w : Collaborators σ} {store : σ → Store}

/-! ## 1. Going all the way -/

namespace Course

/-- The course goes through exchanges, all of them answered, to a result. -/
def Goes : Course α → List Exchange → α → Prop
  | .done a, es, b => es = [] ∧ b = a
  | .ask c next, es, b => ∃ s answer s' rest,
      es = ⟨s, c, .answered answer, s'⟩ :: rest ∧ (next answer).Goes rest b

/-- On its way a course makes only calls that it can make. -/
theorem Only.of_goes {P : Call → Prop} {x : Course α} (hx : x.Only P) {es : List Exchange} {b : α}
    (h : x.Goes es b) : ∀ e ∈ es, P e.call := by
  induction x generalizing es with
  | done a =>
    obtain ⟨rfl, _⟩ := h
    simp
  | ask c next ih =>
    obtain ⟨s, answer, s', rest, rfl, hrest⟩ := h
    exact List.forall_mem_cons.mpr ⟨hx.1, ih answer (hx.2 answer) hrest⟩

/-- Two courses in a row go one after the other. -/
theorem exists_of_goes_bind {x : Course α} {k : α → Course β} {es : List Exchange} {b : β}
    (h : (x >>= k).Goes es b) :
    ∃ es₁ es₂ a, es = es₁ ++ es₂ ∧ x.Goes es₁ a ∧ (k a).Goes es₂ b := by
  induction x generalizing es with
  | done a => exact ⟨[], es, a, rfl, ⟨rfl, rfl⟩, h⟩
  | ask c next ih =>
    obtain ⟨s, answer, s', rest, rfl, hrest⟩ := h
    obtain ⟨es₁, es₂, a, rfl, h₁, h₂⟩ := ih answer hrest
    exact ⟨_ :: es₁, es₂, a, rfl, ⟨s, answer, s', es₁, rfl, h₁⟩, h₂⟩

end Course

section Uninterrupted

/-- Collaborators who answer every call, as long as they are in certain states, and stay in them. -/
def Collaborators.Uninterrupted (w : Collaborators σ) (live : σ → Prop) : Prop :=
  ∀ t c, live t → ∃ answer t', w.attend t c = (.answered answer, t') ∧ live t'

variable {live : σ → Prop} (store : σ → Store) (hw : w.Uninterrupted live) (x : Course α) {t : σ}
  (ht : live t)
include hw ht

/-- **Nobody interrupted, a course goes all the way through its trace.** -/
theorem goes_trace : ∃ a, (x.run w t).outcome = .ok a ∧ x.Goes (x.trace w store t) a ∧
    Leads (store t) (x.trace w store t) (store (x.run w t).final) := by
  induction x generalizing t with
  | done a => exact ⟨a, rfl, ⟨rfl, rfl⟩, .nil _⟩
  | ask c next ih =>
    obtain ⟨answer, t', h, ht'⟩ := hw t c ht
    obtain ⟨a, hrun, hgoes, hleads⟩ := ih answer ht'
    rw [Course.run, Course.trace, h]
    exact ⟨a, hrun, ⟨store t, answer, store t', _, rfl, hgoes⟩,
      .cons ⟨store t, c, .answered answer, store t'⟩ hleads⟩

/-- What holds of a call in each of the states holds of all exchanges of the trace. -/
theorem forall_mem_trace {P : Exchange → Prop}
    (hP : ∀ t c, live t → P ⟨store t, c, (w.attend t c).1, store (w.attend t c).2⟩) :
    ∀ e ∈ x.trace w store t, P e := by
  induction x generalizing t with
  | done a =>
    intro e he
    cases he
  | ask c next ih =>
    obtain ⟨answer, t', h, ht'⟩ := hw t c ht
    have hfirst := hP t c ht
    rw [h] at hfirst
    rw [Course.trace, h]
    exact List.forall_mem_cons.mpr ⟨hfirst, ih answer ht'⟩

end Uninterrupted

/-! ## 2. Where an interruption comes -/

/-- Collaborators who give the same answers, and another one wherever they would interrupt. -/
def Collaborators.persisting (w : Collaborators σ) (instead : σ → (c : Call) → c.Answer × σ) :
    Collaborators σ where
  attend t c :=
    match w.attend t c with
    | (.answered answer, t') => (.answered answer, t')
    | _ => ((instead t c).map .answered id)

theorem persisting_uninterrupted (w : Collaborators σ)
    (instead : σ → (c : Call) → c.Answer × σ) :
    (w.persisting instead).Uninterrupted fun _ => True := by
  intro t c _
  unfold Collaborators.persisting
  simp only
  split
  · exact ⟨_, _, rfl, trivial⟩
  · exact ⟨_, _, rfl, trivial⟩

/-- An interrupted call leaves the store as it is. -/
def Collaborators.InterruptsCleanly (w : Collaborators σ) (store : σ → Store) : Prop :=
  ∀ t c, (∀ answer, (w.attend t c).1 ≠ .answered answer) → store (w.attend t c).2 = store t

theorem Collaborators.InterruptsCleanly.leads_nil (hw : w.InterruptsCleanly store) {t t' : σ}
    {c : Call} {attendance : Attendance c.Answer} (h : w.attend t c = (attendance, t'))
    (hne : ∀ answer, attendance ≠ .answered answer) : Leads (store t) [] (store t') := by
  have hstore := hw t c
  rw [h] at hstore
  rw [hstore hne]
  exact .nil _

/-- An exchange that was completed. -/
def Exchange.IsAnswered (e : Exchange) : Prop := ∃ answer, e.attendance = .answered answer

section Persisting

variable (instead : σ → (c : Call) → c.Answer × σ)

theorem attend_persisting_of_answered {t t' : σ} {c : Call} {answer : c.Answer}
    (h : w.attend t c = (.answered answer, t')) :
    (w.persisting instead).attend t c = (.answered answer, t') := by
  rw [Collaborators.persisting]
  simp only [h]

/-- **The calls of an interrupted course are the first ones of the course that nobody
interrupts.** -/
theorem calls_run_isPrefix (x : Course α) (t : σ) :
    (x.run w t).calls <+: (x.run (w.persisting instead) t).calls := by
  induction x generalizing t with
  | done a => exact List.prefix_rfl
  | ask c next ih =>
    obtain ⟨answer, t', hother, _⟩ := persisting_uninterrupted w instead t c trivial
    have hcalls : ((Course.ask c next).run (w.persisting instead) t).calls =
        c :: ((next answer).run (w.persisting instead) t').calls := by
      rw [Course.run, hother]
    rcases h : w.attend t c with ⟨attendance, t''⟩
    cases attendance with
    | answered answer' =>
      rw [Course.run, Course.run, h, attend_persisting_of_answered instead h]
      exact (List.prefix_cons_inj c).mpr (ih answer' t'')
    | cut i =>
      rw [hcalls, Course.run, h]
      exact (List.prefix_cons_inj c).mpr (List.nil_prefix)
    | refused i =>
      rw [Course.run, h]
      exact List.nil_prefix

/-- The exchanges that a course completes with collaborators who may interrupt it, beside the
course that nobody interrupts. -/
structure Course.Completes (x : Course α) (w : Collaborators σ) (store : σ → Store)
    (instead : σ → (c : Call) → c.Answer × σ) (t : σ) (completed : List Exchange) : Prop where
  /-- They are the first ones of the course that nobody interrupts. -/
  beginning : completed <+: x.trace (w.persisting instead) store t
  answered : ∀ e ∈ completed, e.IsAnswered
  /-- If an interrupted call has no effect, the store ends where they have led it. -/
  leads : w.InterruptsCleanly store → Leads (store t) completed (store (x.run w t).final)
  /-- A course with a result has completed all there was. -/
  whole : ∀ a, (x.run w t).outcome = .ok a →
    x.trace w store t = completed ∧ x.trace (w.persisting instead) store t = completed
  /-- After the last one there is at most the call that was cut off. -/
  cut : ∀ i, (x.run w t).outcome = .error i → x.trace w store t = completed ∨
    ∃ e, e.attendance = .cut i ∧ x.trace w store t = completed ++ [e]

/-- **Up to where a course is interrupted it is the course that nobody interrupts.** -/
theorem exists_completes (x : Course α) (t : σ) :
    ∃ completed, x.Completes w store instead t completed := by
  induction x generalizing t with
  | done a =>
    refine ⟨[], List.prefix_rfl, by simp, fun _ => .nil _, fun _ _ => ⟨rfl, rfl⟩, ?_⟩
    intro i h
    cases h
  | ask c next ih =>
    rcases h : w.attend t c with ⟨attendance, t'⟩
    cases attendance with
    | answered answer =>
      obtain ⟨completed, hcompleted⟩ := ih answer t'
      refine ⟨⟨store t, c, .answered answer, store t'⟩ :: completed, ?_,
        List.forall_mem_cons.mpr ⟨⟨answer, rfl⟩, hcompleted.answered⟩, ?_, ?_, ?_⟩ <;>
        simp only [Course.run, Course.trace, h, attend_persisting_of_answered instead h]
      · exact (List.prefix_cons_inj _).mpr hcompleted.beginning
      · exact fun hclean =>
          .cons ⟨store t, c, .answered answer, store t'⟩ (hcompleted.leads hclean)
      · exact fun a ha => (hcompleted.whole a ha).imp (congrArg _) (congrArg _)
      · intro i hi
        refine (hcompleted.cut i hi).imp (congrArg _) ?_
        rintro ⟨e, he, htrace⟩
        exact ⟨e, he, congrArg _ htrace⟩
    | cut i =>
      refine ⟨[], List.nil_prefix, by simp, ?_, ?_, ?_⟩ <;> simp only [Course.run, Course.trace, h]
      · exact fun hclean => hclean.leads_nil h fun _ e => by cases e
      · exact fun a ha => by cases ha
      · rintro j ⟨⟩
        exact .inr ⟨_, rfl, rfl⟩
    | refused i =>
      refine ⟨[], List.nil_prefix, by simp, ?_, ?_, ?_⟩ <;> simp only [Course.run, Course.trace, h]
      · exact fun hclean => hclean.leads_nil h fun _ e => by cases e
      · exact fun a ha => by cases ha
      · exact fun _ _ => .inl trivial

end Persisting

/-! ## 3. Interruptions by the clock -/

/-- A call that is cut off by a bound of time or by cancellation has no effect. -/
theorem timed_interruptsCleanly (store : σ → Store) {timers : Timers} {limit deadline : Option Span}
    {conduct : σ → (c : Call) → Conduct σ c.Answer}
    (hstarted : ∀ t c, store (conduct t c).started = store t) :
    (Collaborators.timed timers limit deadline conduct).InterruptsCleanly
      fun t => store t.state := by
  intro t c hne
  unfold Collaborators.timed at hne ⊢
  simp only at hne ⊢
  split
  · rfl
  · rename_i hcancelled
    rw [if_neg hcancelled] at hne
    split <;> rename_i hending <;> simp only [hending] at hne
    · exact absurd rfl (hne _)
    · exact absurd rfl (hne _)
    · exact hstarted t.state c
    · exact hstarted t.state c
    · exact hstarted t.state c

/-- How a store conducts calls that take their time, and some of which it refuses. -/
def Store.conduct (now : Instant) (announce : Alert → Except NotifyError Unit)
    (delay : Call → Option Nat) (refusal : Call → Option StoreError) (s : Store) (c : Call) :
    Conduct Store c.Answer :=
  let done := match refusal c with
    | none => s.answer now announce c
    | some e => (c.failure e (.delivery []), s)
  { delay := delay c, cancels := false, started := s, answer := done.1, answered := done.2 }

end AlertLedger
