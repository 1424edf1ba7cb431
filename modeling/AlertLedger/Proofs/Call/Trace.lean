import AlertLedger.Proofs.Call.Keeping

/-!
# Traces

The trace of a course tells what happened call by call: the store that a call found, what became of
the call, and the store that it left (`Exchange`). It is the run once more with the stores in
between (`map_call_trace`), and with collaborators that keep a store it leads from the store at the
beginning to the one at the end without a gap (`leads_trace`). Here the collaborators may stamp
each retirement by a clock of its own (`KeepByAnyClock`).

What holds of every exchange carries over to all moments of a trace:

* `Leads.invariant`: a property that each exchange preserves holds at every moment;
* `Leads.pairwise`: a reflexive and transitive relation between the stores before and after each
  exchange holds between any moment and any later one.
-/

namespace AlertLedger

/-! ## 1. Exchanges -/

/-- A call that was started, with the stores before and after it. -/
structure Exchange where
  before : Store
  call : Call
  attendance : Attendance call.Answer
  after : Store

/-- The alert that a call has written, if its answer says so. -/
def Exchange.written? : Exchange → Option Alert
  | ⟨_, .upsert a, .answered (.ok ()), _⟩ => some a
  | _ => none

/-- The error with which a call to write was answered. -/
def Exchange.refusal? : Exchange → Option StoreError
  | ⟨_, .upsert _, .answered (.error e), _⟩ => some e
  | ⟨_, .markStale _, .answered (.error e), _⟩ => some e
  | _ => none

/-- An exchange in which an alert was written is the answered call to write it. -/
theorem Exchange.exists_of_written? {e : Exchange} {a : Alert} (h : e.written? = some a) :
    ∃ s s', e = ⟨s, .upsert a, .answered (.ok ()), s'⟩ := by
  unfold written? at h
  split at h
  · cases h
    exact ⟨_, _, rfl⟩
  · cases h

/-- Collaborators that keep a store, whatever clock they read when they retire a record. -/
def Collaborators.KeepByAnyClock {σ : Type} (w : Collaborators σ) (store : σ → Store) : Prop :=
  ∀ t c, ∃ now, (store t).Attends now c (w.attend t c).1 (store (w.attend t c).2)

theorem Collaborators.Keep.byAnyClock {σ : Type} {w : Collaborators σ} {store : σ → Store}
    {now : Instant} (h : w.Keep store now) : w.KeepByAnyClock store := fun t c => ⟨now, h t c⟩

theorem prompt_keepByAnyClock (clock : Call → Instant)
    (announce : Alert → Except NotifyError Unit) :
    (Collaborators.prompt clock announce).KeepByAnyClock id := fun _ c =>
  ⟨clock c, .served announce⟩

/-- **What is answered as written is in the store**, if it has an id. -/
theorem Store.Attends.get?_of_written {now : Instant} {s s' : Store} {a : Alert}
    {answer : Except StoreError Unit} (h : s.Attends now (.upsert a) (.answered answer) s')
    (hok : answer = .ok ()) (ha : a.id ≠ "") : s'.get? a.id = some a := by
  cases h with
  | served announce =>
    have hs : s.denied = false := by
      refine Bool.eq_false_iff.mpr fun hd => ?_
      have hrefused : (s.answer now announce (.upsert a)).1 = .error accessRevoked := by
        show (s.afterWrite (s.upsert a)).1 = _
        rw [upsert, if_pos hd]
        rfl
      rw [hrefused] at hok
      cases hok
    rw [answer_snd, if_neg (by simp [hs])]
    show (s.add a).get? a.id = some a
    rw [get?_add s ha, if_pos rfl]
  | failed e f b => cases hok

/-- A call that is not started any more leaves the store as it is. -/
theorem Store.Attends.eq_of_refused {now : Instant} {s s' : Store} {c : Call} {i : Interruption}
    (h : s.Attends now c (.refused i) s') : s' = s := by
  cases h
  rfl

/-! ## 2. The trace of a course -/

section Trace

variable {α σ : Type} {w : Collaborators σ} {store : σ → Store}

/-- The calls of a course that are started, with the stores before and after each. -/
def Course.trace (w : Collaborators σ) (store : σ → Store) : Course α → σ → List Exchange
  | .done _, _ => []
  | .ask c next, t =>
    match w.attend t c with
    | (.answered answer, t') =>
      ⟨store t, c, .answered answer, store t'⟩ :: (next answer).trace w store t'
    | (.cut i, t') => [⟨store t, c, .cut i, store t'⟩]
    | (.refused _, _) => []

/-- **The trace lists the calls of the run.** -/
theorem map_call_trace (x : Course α) (t : σ) :
    (x.trace w store t).map (·.call) = (x.run w t).calls := by
  induction x generalizing t with
  | done a => rfl
  | ask c next ih =>
    rcases h : w.attend t c with ⟨attendance, t'⟩
    rw [Course.trace, Course.run, h]
    cases attendance with
    | answered answer => exact congrArg (c :: ·) (ih answer t')
    | cut i => rfl
    | refused i => rfl

theorem Course.Only.of_mem_trace {P : Call → Prop} {x : Course α} (hx : x.Only P) {t : σ}
    {e : Exchange} (he : e ∈ x.trace w store t) : P e.call := by
  have hmem : e.call ∈ (x.trace w store t).map (·.call) := List.mem_map_of_mem he
  rw [map_call_trace] at hmem
  exact hx.of_mem_calls hmem

theorem attends_of_mem_trace (hw : w.KeepByAnyClock store) {x : Course α} {t : σ} {e : Exchange}
    (he : e ∈ x.trace w store t) :
    ∃ now, e.before.Attends now e.call e.attendance e.after := by
  induction x generalizing t with
  | done a => cases he
  | ask c next ih =>
    have hattend := hw t c
    rw [Course.trace] at he
    split at he <;> rename_i h <;> rw [h] at hattend
    · rcases List.mem_cons.mp he with rfl | he
      · exact hattend
      · exact ih _ he
    · rw [List.mem_singleton.mp he]
      exact hattend
    · cases he

end Trace

/-! ## 3. From one store to another -/

/-- Exchanges that lead from one store to another, each from the store that the one before it
left. -/
inductive Leads : Store → List Exchange → Store → Prop where
  | nil (s : Store) : Leads s [] s
  | cons (e : Exchange) {es : List Exchange} {s' : Store} (rest : Leads e.after es s') :
    Leads e.before (e :: es) s'

/-- **The trace leads from the store at the beginning to the store at the end.** -/
theorem leads_trace {α σ : Type} {w : Collaborators σ} {store : σ → Store}
    (hw : w.KeepByAnyClock store) (x : Course α) (t : σ) :
    Leads (store t) (x.trace w store t) (store (x.run w t).final) := by
  induction x generalizing t with
  | done a => exact .nil _
  | ask c next ih =>
    obtain ⟨now, hattend⟩ := hw t c
    rcases h : w.attend t c with ⟨attendance, t'⟩
    rw [h] at hattend
    rw [Course.trace, Course.run, h]
    cases attendance with
    | answered answer => exact .cons ⟨store t, c, .answered answer, store t'⟩ (ih answer t')
    | cut i => exact .cons ⟨store t, c, .cut i, store t'⟩ (.nil _)
    | refused i =>
      show Leads (store t) [] (store t')
      rw [hattend.eq_of_refused]
      exact .nil _

/-- The stores that can be seen along a trace: the first, and the one after each exchange. -/
def moments (s : Store) (es : List Exchange) : List Store := s :: es.map (·.after)

namespace Leads

variable {s s' s'' : Store} {es fs : List Exchange}

theorem append (h : Leads s es s') (h' : Leads s' fs s'') : Leads s (es ++ fs) s'' := by
  induction h with
  | nil s => exact h'
  | cons e _ ih => exact .cons e (ih h')

theorem eq_of_nil (h : Leads s [] s') : s' = s := by
  cases h
  rfl

/-- Exchanges in a row lead through a store between them. -/
theorem exists_of_append (h : Leads s (es ++ fs) s'') :
    ∃ s', Leads s es s' ∧ Leads s' fs s'' := by
  induction es generalizing s with
  | nil => exact ⟨s, .nil s, h⟩
  | cons e es ih =>
    cases h with
    | cons _ rest =>
      obtain ⟨s', h₁, h₂⟩ := ih rest
      exact ⟨s', .cons e h₁, h₂⟩

theorem before_mem (h : Leads s es s') {e : Exchange} (he : e ∈ es) : e.before ∈ moments s es := by
  induction h with
  | nil s => cases he
  | cons d _ ih =>
    rcases List.mem_cons.mp he with rfl | he
    · exact List.mem_cons_self
    · exact List.mem_cons_of_mem _ (ih he)

theorem after_mem (s : Store) {e : Exchange} (he : e ∈ es) : e.after ∈ moments s es :=
  List.mem_cons_of_mem s (List.mem_map_of_mem he)

/-- **What each exchange preserves holds at every moment**, and at the end. -/
theorem invariant {I : Store → Prop} (h : Leads s es s') (hs : I s)
    (hstep : ∀ e ∈ es, I e.before → I e.after) : (∀ m ∈ moments s es, I m) ∧ I s' := by
  induction h with
  | nil s => exact ⟨fun m hm => List.mem_singleton.mp hm ▸ hs, hs⟩
  | cons e _ ih =>
    obtain ⟨hmoments, hlast⟩ := ih (hstep e List.mem_cons_self hs)
      fun d hd => hstep d (List.mem_cons_of_mem e hd)
    refine ⟨fun m hm => ?_, hlast⟩
    rcases List.mem_cons.mp hm with rfl | hm
    · exact hs
    · exact hmoments m hm

/-- **What holds between the stores before and after each exchange holds between any moment and
any later one**, and between each and the end. -/
theorem pairwise {R : Store → Store → Prop} (h : Leads s es s') (hrefl : ∀ m, R m m)
    (htrans : ∀ l m n, R l m → R m n → R l n) (hstep : ∀ e ∈ es, R e.before e.after) :
    (moments s es).Pairwise R ∧ ∀ m ∈ moments s es, R m s' := by
  induction h with
  | nil s => exact ⟨List.pairwise_singleton R s, fun m hm => List.mem_singleton.mp hm ▸ hrefl s⟩
  | cons e h ih =>
    have hfirst := hstep e List.mem_cons_self
    obtain ⟨hpair, hlast⟩ := ih fun d hd => hstep d (List.mem_cons_of_mem e hd)
    obtain ⟨hafter, _⟩ := List.pairwise_cons.mp hpair
    refine ⟨List.pairwise_cons.mpr ⟨fun m hm => ?_, hpair⟩, fun m hm => ?_⟩
    · rcases List.mem_cons.mp hm with rfl | hm
      · exact hfirst
      · exact htrans _ _ _ hfirst (hafter m hm)
    · rcases List.mem_cons.mp hm with rfl | hm
      · exact htrans _ _ _ hfirst (hlast _ List.mem_cons_self)
      · exact hlast m hm

end Leads

end AlertLedger
