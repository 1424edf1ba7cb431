import AlertLedger.Proofs.Call.Interruption

/-!
# Fates of calls

A call that nobody interrupts is served, or fails, or outlives the time allowed for it; the last two
leave no trace in the store (`Store.Meets`). What becomes of each call to write may be laid down
beforehand, and collaborators follow it (`Collaborators.Follows`); what becomes of a call to read
may change from one to the next. Timed collaborators follow such a plan under a limit for each call,
without a deadline and without anyone who cancels (`timed_follows`).
-/

namespace AlertLedger

/-! ## 1. What becomes of a call -/

/-- What becomes of a call. -/
inductive Fate where
  | served
  | failed (e : StoreError) (f : NotifyError)
  /-- The call outlived the time allowed for it. -/
  | timedOut (limit : Span)

/-- Why a call to the store fails. -/
def Fate.cause? (c : Call) : Fate → Option StoreError
  | .served => none
  | .failed e _ => some e
  | .timedOut limit => some (.ofTimeout ⟨c.operation, limit⟩)

/-- A call meets with its fate. -/
inductive Store.Meets (now : Instant) (s : Store) (c : Call) :
    Fate → Attendance c.Answer → Store → Prop where
  | served (announce : Alert → Except NotifyError Unit) :
    Meets now s c .served (.answered (s.answer now announce c).1) (s.answer now announce c).2
  | failed (e : StoreError) (f : NotifyError) :
    Meets now s c (.failed e f) (.answered (c.failure e f)) s
  | timedOut (limit : Span) :
    Meets now s c (.timedOut limit) (.answered (c.timeoutAnswer limit)) s

namespace Store.Meets

variable {now : Instant} {s s' : Store} {c : Call} {fate : Fate} {attendance : Attendance c.Answer}

theorem exists_answer (h : s.Meets now c fate attendance s') :
    ∃ answer, attendance = .answered answer := by
  cases h with
  | served announce => exact ⟨_, rfl⟩
  | failed e f => exact ⟨_, rfl⟩
  | timedOut limit => exact ⟨_, rfl⟩

/-- A call to read leaves the store as it is. -/
theorem eq_of_reads (h : s.Meets now c fate attendance s') (hc : c.writes = false) : s' = s := by
  cases h with
  | served announce =>
    rw [answer_snd, effect_of_reads hc]
    split <;> rfl
  | failed e f => rfl
  | timedOut limit => rfl

end Store.Meets

/-- A call meets with its fate: a call to write with the one laid down for it, a call to read with
some fate or other. -/
def Exchange.Follows (now : Instant) (fate : Call → Fate) (e : Exchange) : Prop :=
  ∃ f, (e.call.writes = true → f = fate e.call) ∧ e.before.Meets now e.call f e.attendance e.after

/-- Collaborators with a store, in certain states, with whom every call meets with its fate. -/
structure Collaborators.Follows {σ : Type} (w : Collaborators σ) (store : σ → Store)
    (live : σ → Prop) (now : Instant) (fate : Call → Fate) : Prop where
  stays : ∀ t c, live t → live (w.attend t c).2
  follows : ∀ t c, live t →
    Exchange.Follows now fate ⟨store t, c, (w.attend t c).1, store (w.attend t c).2⟩

variable {σ : Type} {now : Instant} {fate : Call → Fate}

theorem Collaborators.Follows.uninterrupted {w : Collaborators σ} {store : σ → Store}
    {live : σ → Prop} (hw : w.Follows store live now fate) : w.Uninterrupted live := by
  intro t c ht
  obtain ⟨f, _, hmeets⟩ := hw.follows t c ht
  obtain ⟨answer, h⟩ := hmeets.exists_answer
  exact ⟨answer, (w.attend t c).2, Prod.ext h rfl, hw.stays t c ht⟩

/-! ## 2. Calls under a limit -/

/-- Whether an answer that takes its time comes within the time allowed, as the timer has it that is
set for a call at a moment of the pass. -/
def answersInTime (timers : Timers) (elapsed : Nat) : Option Span → Option Nat → Bool
  | some limit, some delay => delay ≤ timers.wait elapsed (elapsed + limit.nanos)
  | none, some _ => true
  | _, none => false

/-- Without cancellation the first bound of time ends a call. -/
theorem Bounds.ending_of_cancel_none {b : Bounds} (h : b.cancel = none) :
    b.ending = b.uncancelled := by
  unfold ending
  rw [h]
  split
  · rename_i e hb
    rw [hb]
  · cases b.uncancelled <;> rfl

/-- What ends a call that is neither cancelled nor under a deadline. -/
theorem exists_ending_ofConduct {α : Type} {k : Conduct σ α} (hcancels : k.cancels = false)
    {limit : Option Span} (hends : limit = none → k.delay ≠ none) (timers : Timers)
    (elapsed : Nat) :
    ∃ d, (Bounds.ofConduct timers limit none elapsed k).ending =
      some (d, if answersInTime timers elapsed limit k.delay then .answered else .timedOut) := by
  have hcancel : (Bounds.ofConduct timers limit none elapsed k).cancel = none := by
    rw [Bounds.ofConduct, hcancels]
    rfl
  rw [Bounds.ending_of_cancel_none hcancel]
  unfold Bounds.ofConduct Bounds.uncancelled answersInTime
  cases hdelay : k.delay with
  | none =>
    cases limit with
    | none => exact absurd hdelay (hends rfl)
    | some limit => exact ⟨_, rfl⟩
  | some d =>
    cases limit with
    | none => exact ⟨d, rfl⟩
    | some limit =>
      by_cases h : d ≤ timers.wait elapsed (elapsed + limit.nanos)
      · exact ⟨d, by simp [Bounds.earlier, h]⟩
      · exact ⟨timers.wait elapsed (elapsed + limit.nanos), by simp [Bounds.earlier, h]⟩

/-- **Under a limit alone, calls that are answered in time meet with what the collaborators have for
them, and the others time out.** -/
theorem timed_follows (store : σ → Store) {timers : Timers} {limit : Option Span}
    {conduct : σ → (c : Call) → Conduct σ c.Answer}
    (hstarted : ∀ t c, store (conduct t c).started = store t)
    (hcancels : ∀ t c, (conduct t c).cancels = false)
    (hends : limit = none → ∀ t c, (conduct t c).delay ≠ none)
    (hanswered : ∀ t c elapsed, answersInTime timers elapsed limit (conduct t c).delay = true →
      Exchange.Follows now fate
        ⟨store t, c, .answered (conduct t c).answer, store (conduct t c).answered⟩)
    (hlate : ∀ t c elapsed, answersInTime timers elapsed limit (conduct t c).delay = false →
      c.writes = true → fate c = .timedOut (limit.getD .zero)) :
    (Collaborators.timed timers limit none conduct).Follows (fun t => store t.state)
      (fun t => t.cancelled = false) now fate := by
  have hattend : ∀ t c, t.cancelled = false → ∃ elapsed,
      (Collaborators.timed timers limit none conduct).attend t c =
        if answersInTime timers t.elapsed limit (conduct t.state c).delay then
          (.answered (conduct t.state c).answer, ⟨(conduct t.state c).answered, elapsed, false⟩)
        else (.answered (c.timeoutAnswer (limit.getD .zero)),
          ⟨(conduct t.state c).started, elapsed, false⟩) := by
    intro t c ht
    obtain ⟨d, hending⟩ := exists_ending_ofConduct (hcancels t.state c)
      (fun hl => hends hl t.state c) timers t.elapsed
    refine ⟨t.elapsed + d, ?_⟩
    unfold Collaborators.timed
    simp only [ht, hending, hcancels, Bool.false_eq_true, if_false]
    cases answersInTime timers t.elapsed limit (conduct t.state c).delay <;> rfl
  refine ⟨fun t c ht => ?_, fun t c ht => ?_⟩ <;> obtain ⟨elapsed, h⟩ := hattend t c ht <;> rw [h]
  · split <;> rfl
  · split <;> rename_i hin
    · exact hanswered t.state c t.elapsed hin
    · refine ⟨.timedOut (limit.getD .zero), fun hc => ?_, ?_⟩
      · exact (hlate t.state c t.elapsed (by simpa using hin) hc).symm
      · simp only [hstarted]
        exact .timedOut _

/-- By exact timers it makes no difference when a call starts. -/
theorem answersInTime_exact (elapsed : Nat) (limit : Option Span) (delay : Option Nat) :
    answersInTime .exact elapsed limit delay = answersInTime .exact 0 limit delay := by
  cases limit <;> cases delay <;> simp [answersInTime, Timers.wait, Timers.exact]

/-- What becomes of the calls that a store conducts under a limit, by exact timers. -/
def Fate.ofDelay (limit : Option Span) (delay : Call → Option Nat)
    (refusal : Call → Option StoreError) (c : Call) : Fate :=
  if answersInTime .exact 0 limit (delay c) then
    match refusal c with
    | none => .served
    | some e => .failed e (.delivery [])
  else .timedOut (limit.getD .zero)

theorem conduct_follows (now : Instant) (announce : Alert → Except NotifyError Unit)
    {limit : Option Span} (delay : Call → Option Nat) (refusal : Call → Option StoreError)
    (hends : limit = none → ∀ c, delay c ≠ none) :
    (Collaborators.timed .exact limit none (Store.conduct now announce delay refusal)).Follows
      Timed.state (fun t => t.cancelled = false) now (.ofDelay limit delay refusal) := by
  refine timed_follows id (fun _ _ => rfl) (fun _ _ => rfl) (fun hl _ c => hends hl c) ?_ ?_
  · intro s c elapsed hin
    rw [answersInTime_exact] at hin
    have hfate : Fate.ofDelay limit delay refusal c = match refusal c with
        | none => .served
        | some e => .failed e (.delivery []) := if_pos hin
    refine ⟨_, fun _ => rfl, ?_⟩
    show s.Meets now c (Fate.ofDelay limit delay refusal c)
      (.answered (Store.conduct now announce delay refusal s c).answer)
      (Store.conduct now announce delay refusal s c).answered
    rw [hfate, Store.conduct]
    cases refusal c with
    | none => exact .served announce
    | some e => exact .failed e _
  · intro s c elapsed hlate _
    rw [answersInTime_exact] at hlate
    exact if_neg (Bool.eq_false_iff.mp hlate)

end AlertLedger
