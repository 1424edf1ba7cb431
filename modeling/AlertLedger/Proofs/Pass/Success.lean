import AlertLedger.Proofs.Pass.Faults
import AlertLedger.Proofs.Pass.Locality
import AlertLedger.Proofs.Pass.NewRecords

/-!
# Passes that succeed

A pass that comes to a report has been refused no write: it notes every refusal, and finishes with
a report only where it has noted none (`unrefused_of_goes`). A write that is not refused has its
effect (`takesEffect_of_unrefused`). So the whole plan is carried out, by whatever clocks the
records are retired, and whatever look-ups and announcements have failed (`succeeds_of_verdict`,
`Succeeds.exists_eq_fulfilled`).
-/

namespace AlertLedger

variable {α σ : Type} {w : Collaborators σ} {store : σ → Store}

/-! ## 1. Courses with a result -/

/-- A course that has a result has gone all the way. -/
theorem goes_of_outcome {x : Course α} {t : σ} {a : α} (h : (x.run w t).outcome = .ok a) :
    x.Goes (x.trace w store t) a := by
  induction x generalizing t with
  | done b => exact ⟨rfl, (Except.ok.inj h).symm⟩
  | ask c next ih =>
    rcases hattend : w.attend t c with ⟨attendance, t'⟩
    rw [Course.run, hattend] at h
    rw [Course.trace, hattend]
    cases attendance with
    | answered answer => exact ⟨store t, answer, store t', _, rfl, ih answer h⟩
    | cut i => cases h
    | refused i => cases h

/-- On its way a course is answered every time. -/
theorem isAnswered_of_goes {x : Course α} {es : List Exchange} {a : α} (h : x.Goes es a) :
    ∀ e ∈ es, e.IsAnswered := by
  induction x generalizing es with
  | done b =>
    obtain ⟨rfl, _⟩ := h
    simp
  | ask c next ih =>
    obtain ⟨s, answer, s', rest, rfl, hrest⟩ := h
    exact List.forall_mem_cons.mpr ⟨⟨answer, rfl⟩, ih answer hrest⟩

/-! ## 2. Exchanges that take effect -/

namespace Exchange

/-- The exchange leaves the store with the effect of its call, by some clock. -/
def TakesEffect (e : Exchange) : Prop := ∃ now, e.after = e.before.effect now e.call

theorem refusal?_of_reads {e : Exchange} (h : e.call.writes = false) : e.refusal? = none := by
  obtain ⟨s, c, attendance, s'⟩ := e
  cases c with
  | upsert a => cases h
  | markStale id => cases h
  | _ => rfl

end Exchange

/-- **A call that is answered and not refused has its effect.** -/
theorem Store.Attends.eq_effect {now : Instant} {s s' : Store} {c : Call} {answer : c.Answer}
    (h : s.Attends now c (.answered answer) s')
    (hr : Exchange.refusal? ⟨s, c, .answered answer, s'⟩ = none) : s' = s.effect now c := by
  cases hc : c.writes with
  | false =>
    rw [effect_of_reads hc]
    exact h.store_eq.elim id fun heffect => heffect.trans (effect_of_reads hc)
  | true =>
    cases h with
    | served announce =>
      rw [answer_snd]
      refine if_neg fun hd => ?_
      -- a store that is denied refuses what it is to write
      cases c with
      | upsert a =>
        have hanswer : (s.answer now announce (.upsert a)).1 = .error accessRevoked := by
          show (s.afterWrite (s.upsert a)).1 = _
          rw [upsert, if_pos hd]
          rfl
        rw [hanswer] at hr
        cases hr
      | markStale id =>
        have hanswer : (s.answer now announce (.markStale id)).1 = .error accessRevoked := by
          show (s.afterWrite (s.markStale id now)).1 = _
          rw [markStale, if_pos hd]
          rfl
        rw [hanswer] at hr
        cases hr
      | _ => cases hc
    | failed e f b =>
      cases c with
      | upsert a => cases hr
      | markStale id => cases hr
      | _ => cases hc

theorem Exchange.takesEffect_of_unrefused {e : Exchange}
    (h : ∃ now, e.before.Attends now e.call e.attendance e.after) (ha : e.IsAnswered)
    (hr : e.refusal? = none) : e.TakesEffect := by
  obtain ⟨s, c, attendance, s'⟩ := e
  obtain ⟨now, h⟩ := h
  cases attendance with
  | answered answer => exact ⟨now, h.eq_effect hr⟩
  | cut i => obtain ⟨_, h⟩ := ha; cases h
  | refused i => obtain ⟨_, h⟩ := ha; cases h

/-! ## 3. Rows of exchanges that take effect -/

section Rows

variable {s s' : Store} {es : List Exchange}

theorem Leads.of_cons {e : Exchange} (h : Leads s (e :: es) s') :
    e.before = s ∧ Leads e.after es s' := by
  cases h with
  | cons _ rest => exact ⟨rfl, rest⟩

/-- Exchanges that take effect, and retire nothing, add what they write. -/
theorem Leads.eq_foldl_add (h : Leads s es s') (heffect : ∀ e ∈ es, e.TakesEffect)
    (hkeeps : ∀ id, .markStale id ∉ es.map (·.call)) :
    s' = (upserts (es.map (·.call))).foldl Store.add s := by
  induction h with
  | nil s => rfl
  | cons e rest ih =>
    have hrest := ih (fun d hd => heffect d (List.mem_cons_of_mem e hd))
      fun id hmem => hkeeps id (List.mem_cons_of_mem e.call hmem)
    obtain ⟨now, hafter⟩ := heffect e List.mem_cons_self
    rw [hrest, hafter]
    obtain ⟨s, c, attendance, s'⟩ := e
    cases c with
    | markStale id => exact absurd List.mem_cons_self (hkeeps id)
    | _ => rfl

/-- Exchanges that retire records and take effect retire each of them by some clock. -/
theorem Leads.exists_eq_foldl_retire (h : Leads s es s') (heffect : ∀ e ∈ es, e.TakesEffect)
    {ids : List String} (hcalls : es.map (·.call) = ids.map .markStale)
    (clock : String → Instant) :
    ∃ clock' : String → Instant, s' = ids.foldl (fun s id => s.retire (clock' id) id) s := by
  induction h generalizing ids with
  | nil s =>
    obtain rfl := List.map_eq_nil_iff.mp hcalls.symm
    exact ⟨clock, rfl⟩
  | cons e rest ih =>
    obtain ⟨first, ids, rfl, hfirst, hids⟩ := List.map_eq_cons_iff.mp hcalls.symm
    obtain ⟨later, rfl⟩ := ih (fun d hd => heffect d (List.mem_cons_of_mem e hd)) hids.symm
    obtain ⟨now, hafter⟩ := heffect e List.mem_cons_self
    have hretired : e.after = e.before.retire now first := by
      change Call.markStale first = e.call at hfirst
      rw [hafter, ← hfirst]
      rfl
    -- what is retired here is left as it is by whatever comes later
    refine ⟨fun id => if id = first then now else later id, ?_⟩
    refine Store.eq_of_get?_eq ?_ fun id => ?_
    · rw [Store.denied_foldl_retire, Store.denied_foldl_retire, hretired, Store.denied_retire]
    · rw [Store.get?_foldl_retire, Store.get?_foldl_retire, hretired, Store.get?_retire]
      by_cases heq : id = first
      · subst heq
        cases e.before.get? id with
        | none => simp
        | some r => simp [Store.retired_retired]
      · simp [heq]

end Rows

namespace Pass

variable {x : Pass} {p p' : Progress} {es : List Exchange} {s s' : Store}

/-! ## 4. What is noted -/

/-- A pass that comes to a report has noted no failure. -/
theorem failures_of_finish {report : Report} (h : p.finish = .ok report) : p.failures = [] := by
  unfold Progress.finish at h
  split at h
  · assumption
  · cases h

/-- A step that notes no refusal has had none. -/
theorem Attempts.unrefused {w : Write} (h : Attempts w p es p') (hp : p'.failures = []) :
    p.failures = [] ∧ ∀ e ∈ es, e.refusal? = none := by
  obtain ⟨reads, e, rfl, hreads, _, hfailures⟩ := h
  rw [hp, List.nil_eq_append_iff] at hfailures
  obtain ⟨hbefore, hnoted⟩ := hfailures
  refine ⟨hbefore, fun d hd => ?_⟩
  rcases List.mem_append.mp hd with hd | hd
  · exact Exchange.refusal?_of_reads (hreads d hd)
  · rw [List.mem_singleton.mp hd]
    simpa using hnoted

/-- Nor has a loop of such steps. -/
theorem unrefused_of_goes_each {step : Progress → Alert → Course Progress} {kind : WriteKind}
    {as : List Alert} (h : (each step as p).Goes es p') (hp : p'.failures = [])
    (hstep : ∀ p a es p', (step p a).Goes es p' → Attempts ⟨kind, a⟩ p es p') :
    p.failures = [] ∧ ∀ e ∈ es, e.refusal? = none := by
  induction as generalizing p es with
  | nil =>
    obtain ⟨rfl, rfl⟩ := h
    exact ⟨hp, by simp⟩
  | cons a as ih =>
    obtain ⟨first, rest, q, rfl, hfirst, hrest⟩ := Course.exists_of_goes_bind h
    obtain ⟨hq, hlast⟩ := ih hrest
    obtain ⟨hbefore, hhere⟩ := (hstep p a first q hfirst).unrefused hq
    exact ⟨hbefore, List.forall_mem_append.mpr ⟨hhere, hlast⟩⟩

/-- **A pass that notes no failure has been refused no write.** -/
theorem unrefused_of_goes {plan : Plan} (h : (x.carryOut plan).Goes es p')
    (hp : p'.failures = []) : ∀ e ∈ es, e.refusal? = none := by
  obtain ⟨updates, rest, q, rfl, hupdates, hrest⟩ := Course.exists_of_goes_bind h
  obtain ⟨creations, retirements, q', rfl, hcreations, hretirements⟩ :=
    Course.exists_of_goes_bind hrest
  obtain ⟨hq', h₃⟩ := unrefused_of_goes_each hretirements hp fun _ _ _ _ => attempts_retire
  obtain ⟨hq, h₂⟩ := unrefused_of_goes_each hcreations hq' fun _ _ _ _ => attempts_recordNew
  obtain ⟨_, h₁⟩ := unrefused_of_goes_each hupdates hq fun _ _ _ _ => attempts_update
  exact List.forall_mem_append.mpr ⟨h₁, List.forall_mem_append.mpr ⟨h₂, h₃⟩⟩

/-! ## 5. The whole plan -/

theorem ne_markStale_of_introduces {window : Span} {now : Instant} {a : Alert}
    (h : Introduces window now a es) (id : String) : .markStale id ∉ es.map (·.call) := by
  intro hmem
  cases h with
  | announced lookUp permitted announcement writing =>
    rw [List.map_append, lookUp, List.map_cons, List.map_singleton, announcement, writing] at hmem
    split at hmem <;> simp at hmem
  | heldBack lookUp writing =>
    obtain ⟨_, _, _, rfl, _⟩ := lookUp
    rw [List.map_cons, List.map_singleton, writing] at hmem
    simp at hmem

theorem ne_markStale_of_forall₂ {window : Span} {now : Instant} {as : List Alert}
    {rows : List (List Exchange)} (h : List.Forall₂ (Introduces window now) as rows) (id : String) :
    .markStale id ∉ rows.flatten.map (·.call) := by
  induction h with
  | nil => exact List.not_mem_nil
  | cons hrow _ ih =>
    rw [List.flatten_cons, List.map_append, List.mem_append, not_or]
    exact ⟨ne_markStale_of_introduces hrow id, ih⟩

/-- **Exchanges that take effect carry the whole plan out**, by the clock that each retirement went
by. -/
theorem exists_eq_carriedOut {plan : Plan} (h : x.CarriesOut plan es) (hleads : Leads s es s')
    (heffect : ∀ e ∈ es, e.TakesEffect) :
    ∃ clock, s' = s.carriedOut clock (plan.updated ++ identify x.freshId 0 plan.new)
      plan.stale := by
  have hupserts := upserts_of_carriesOut h
  obtain ⟨updates, introductions, retirements, rfl, hupdates, hintroductions, hretirements⟩ := h
  obtain ⟨s₁, hwritten, hretired⟩ := hleads.exists_of_append
  have hkeeps : ∀ id, .markStale id ∉ (updates ++ introductions.flatten).map (·.call) := by
    intro id
    rw [List.map_append, List.mem_append, not_or, hupdates]
    exact ⟨by simp, ne_markStale_of_forall₂ hintroductions id⟩
  have hs₁ := hwritten.eq_foldl_add (fun e he => heffect e (List.mem_append_left _ he)) hkeeps
  rw [List.map_append, upserts_append, hretirements, upserts_map_markStale,
    List.append_nil] at hupserts
  rw [hupserts] at hs₁
  have hcalls : retirements.map (·.call) = (plan.stale.map (·.id)).map .markStale := by
    rw [hretirements, List.map_map]
    rfl
  obtain ⟨stamp, hs'⟩ := hretired.exists_eq_foldl_retire
    (fun e he => heffect e (List.mem_append_right _ he)) hcalls fun _ => x.now
  let clock : Call → Instant := fun c =>
    match c with
    | .markStale id => stamp id
    | _ => x.now
  refine ⟨clock, ?_⟩
  rw [hs', hs₁]
  rfl

/-- The exchanges of a pass that comes to a report: the search has found the records, and the plan
for them is carried out without a write being refused. -/
structure Succeeds (x : Pass) (s s' : Store) (calls : List Call) (report : Report)
    (es : List Exchange) (p : Progress) : Prop where
  goes : (x.carryOut (x.plan s)).Goes es p
  noted : p.report = report
  unrefused : ∀ e ∈ es, e.refusal? = none
  effect : ∀ e ∈ es, e.TakesEffect
  leads : Leads s es s'
  calls : calls = .search (.inScope x.filters) :: es.map (·.call)

/-- **A pass that comes to a report succeeds.** -/
theorem succeeds_of_verdict (hw : w.KeepByAnyClock store) {t : σ} {report : Report}
    (h : verdict (x.run w t) = .ok report) :
    ∃ es p, x.Succeeds (store t) (store (x.run w t).final) (x.run w t).calls report es p := by
  have houtcome : (x.run w t).outcome = .ok (.ok report) := by
    unfold verdict at h
    split at h
    · rename_i result hresult
      rw [hresult, h]
    · cases h
  have hgoes : x.course.Goes (x.course.trace w store t) (.ok report) := goes_of_outcome houtcome
  have hleads := leads_trace hw x.course t
  have hanswered := isAnswered_of_goes hgoes
  have hattends : ∀ e ∈ x.course.trace w store t,
      ∃ now, e.before.Attends now e.call e.attendance e.after := fun e => attends_of_mem_trace hw
  have hcalls : (x.course.trace w store t).map (·.call) = (x.run w t).calls :=
    map_call_trace x.course t
  obtain ⟨s, answer, s', rest, htrace, hrest⟩ := hgoes
  rw [htrace] at hleads hanswered hattends hcalls
  -- the search leaves the store as it is, and an answer other than its records ends the pass
  obtain ⟨now, hsearch⟩ :
      ∃ now, s.Attends now (.search (.inScope x.filters)) (.answered answer) s' :=
    hattends _ List.mem_cons_self
  obtain ⟨rfl, hleads⟩ := hleads.of_cons
  obtain ⟨rfl, rfl | ⟨error, rfl⟩⟩ := hsearch.answered_search
  · have hrow : (x.carryOut (x.plan (store t)) >>= fun p => Course.done p.finish).Goes rest
        (.ok report) := hrest
    obtain ⟨es, last, p, rfl, hes, rfl, hfinish⟩ := Course.exists_of_goes_bind hrow
    rw [List.append_nil] at hleads hanswered hattends hcalls
    have hunrefused := unrefused_of_goes hes (failures_of_finish hfinish.symm)
    refine ⟨es, p, hes, report_of_finish hfinish.symm, hunrefused, fun e he => ?_, hleads,
      hcalls.symm⟩
    exact Exchange.takesEffect_of_unrefused (hattends e (List.mem_cons_of_mem _ he))
      (hanswered e (List.mem_cons_of_mem _ he)) (hunrefused e he)
  · obtain ⟨_, hreport⟩ := hrest
    cases hreport

section Succeeds

variable {calls : List Call} {report : Report} (h : x.Succeeds s s' calls report es p)
include h

/-- **A pass that comes to a report fulfils its plan.** -/
theorem Succeeds.exists_eq_fulfilled : ∃ clock, s' = x.fulfilled s clock :=
  exists_eq_carriedOut (carriesOut_of_goes h.goes) h.leads h.effect

theorem Succeeds.denied_eq : s'.denied = s.denied := by
  obtain ⟨clock, rfl⟩ := h.exists_eq_fulfilled
  exact denied_fulfilled x s clock

end Succeeds

end Pass

end AlertLedger
