import AlertLedger.Call.Prompt
import AlertLedger.Proofs.Pass.Outcome

/-!
# Passes that nothing gets in the way of

With prompt collaborators and access granted a pass gets all of its plan done, and it announces
just those of the alerts it creates that the quiet window lets it (`run_prompt`). An announcement
may fail nevertheless; that does not keep the alert from being written. Each loop is a row of steps
that take effect (`Takes`), and every look-up of the pass finds the resolved records as they were
at its beginning (`select_resolvedFor`): what is written over is active before and after, and what
is created has another key than the alerts to come, or is an attempted enforcement.
-/

namespace AlertLedger

/-- The alerts that were handed to the notifier, in order. -/
def announced (calls : List Call) : List Alert :=
  calls.filterMap fun c =>
    match c with
    | .dispatch a => some a
    | _ => none

@[simp] theorem announced_append (cs ds : List Call) :
    announced (cs ++ ds) = announced cs ++ announced ds := List.filterMap_append

theorem mem_announced {calls : List Call} {a : Alert} :
    a ∈ announced calls ↔ .dispatch a ∈ calls := by
  rw [announced, List.mem_filterMap]
  constructor
  · rintro ⟨c, hc, h⟩
    cases c with
    | dispatch b => rwa [← Option.some.inj h]
    | _ => cases h
  · intro h
    exact ⟨.dispatch a, h, rfl⟩

namespace Pass

variable {now : Instant} {clock : Call → Instant} {notify : Alert → Except NotifyError Unit}
  {s : Store} {a : Alert}

/-! ## 1. Steps that take effect -/

theorem answer_upsert (hs : s.denied = false) (ha : a.id ≠ "") :
    s.answer now notify (.upsert a) = (.ok (), s.add a) := by
  show s.afterWrite (s.upsert a) = _
  rw [Store.upsert_eq_add hs ha]
  rfl

theorem answer_search (hs : s.denied = false) (q : Query) :
    s.answer now notify (.search q) = (.ok (s.select q), s) := by
  show (s.search q, s) = _
  rw [Store.search_eq_select hs]
  rfl

theorem answer_searchResolved (hs : s.denied = false) (k : Key) :
    s.answer now notify (.searchResolved k) = (.ok (s.select (.resolvedFor k)), s) := by
  show (s.search (.resolvedFor k), s) = _
  rw [Store.search_eq_select hs]
  rfl

theorem answer_markStale {id : String} (hs : s.denied = false) (ha : s.get? id = some a) :
    s.answer now notify (.markStale id) = (.ok (), s.retire now id) := by
  show s.afterWrite (s.markStale id now) = _
  rw [Store.markStale_eq_retire hs ha]
  rfl

/-- A step that announces some alerts, leaves the store with an effect and notes no failure,
whatever the progress. -/
def Takes (clock : Call → Instant) (notify : Alert → Except NotifyError Unit)
    (step : Progress → Alert → Course Progress) (s : Store) (a : Alert) (told : List Alert)
    (s' : Store) : Prop :=
  ∀ p, ∃ calls p', (step p a).run (.prompt clock notify) s = ⟨calls, .ok p', s'⟩ ∧
    p'.failures = p.failures ∧ announced calls = told

theorem takes_update (hs : s.denied = false) (ha : a.id ≠ "") :
    Takes clock notify update s a [] (s.add a) := by
  intro p
  refine ⟨[.upsert a], p.update a.key, ?_, rfl, rfl⟩
  show Course.run _ (.ask (.upsert a) _) s = _
  rw [run_ask_prompt, answer_upsert hs ha]
  rfl

theorem takes_create (hs : s.denied = false) (ha : a.id ≠ "") :
    Takes clock notify create s a [] (s.add a) := by
  intro p
  refine ⟨[.upsert a], p.create a.key, ?_, rfl, rfl⟩
  show Course.run _ (.ask (.upsert a) _) s = _
  rw [run_ask_prompt, answer_upsert hs ha]
  rfl

theorem takes_retire {b : Alert} (hs : s.denied = false) (hb : s.get? a.id = some b) :
    Takes clock notify retire s a [] (s.retire (clock (.markStale a.id)) a.id) := by
  intro p
  refine ⟨[.markStale a.id], p.resolve a.key, ?_, rfl, rfl⟩
  show Course.run _ (.ask (.markStale a.id) _) s = _
  rw [run_ask_prompt, answer_markStale hs hb]
  rfl

/-- Whether the quiet window lets a new alert be announced, as far as a store knows. -/
def permits (window : Span) (now : Instant) (s : Store) (a : Alert) : Bool :=
  AlertLedger.mayAnnounce window a (lastResolved? (s.select (.resolvedFor a.key))) now

theorem run_mayAnnounce_prompt (hs : s.denied = false) (window : Span) (now : Instant) :
    (mayAnnounce window now a).run (.prompt clock notify) s =
      ⟨if window.isZero then [] else [.searchResolved a.key],
        .ok (permits window now s a), s⟩ := by
  by_cases hw : window.isZero = true
  · have hpermits : permits window now s a = true := by
      simp [permits, AlertLedger.mayAnnounce, hw]
    rw [mayAnnounce, if_pos hw, if_pos hw, hpermits]
    rfl
  · rw [mayAnnounce, if_neg hw, if_neg hw]
    show Course.run _ (.ask (.searchResolved a.key) _) s = _
    rw [run_ask_prompt, answer_searchResolved hs]
    rfl

/-- A new alert is announced where the quiet window lets it be, and the store stays as it is. -/
theorem takes_announce (hs : s.denied = false) (window : Span) (now : Instant) :
    Takes clock notify (announce window now) s a
      (if permits window now s a then [a] else []) s := by
  intro p
  have hasked : announced (if window.isZero then [] else [Call.searchResolved a.key]) = [] := by
    split <;> rfl
  rw [announce, Course.run_bind, run_mayAnnounce_prompt hs]
  cases permits window now s a with
  | false =>
    refine ⟨_, p.suppress, rfl, rfl, ?_⟩
    rw [announced_append, hasked]
    rfl
  | true =>
    show ∃ calls p', Run.after (Course.run _ (.ask (.dispatch a) _) s) _ = _ ∧ _
    rw [run_ask_prompt]
    have htold : announced ((if window.isZero then [] else [.searchResolved a.key]) ++
        [.dispatch a]) = [a] := by
      rw [announced_append, hasked]
      rfl
    cases h : notify a with
    | ok u =>
      have hanswer (now : Instant) : s.answer now notify (.dispatch a) = (.ok u, s) := by
        rw [← h]
        rfl
      rw [hanswer]
      exact ⟨_, p.notify, rfl, rfl, htold⟩
    | error e =>
      have hanswer (now : Instant) : s.answer now notify (.dispatch a) = (.error e, s) := by
        rw [← h]
        rfl
      rw [hanswer]
      exact ⟨_, p.missNotice, rfl, rfl, htold⟩

theorem takes_recordNew (hs : s.denied = false) (ha : a.id ≠ "") (window : Span)
    (now : Instant) :
    Takes clock notify (recordNew window now) s a
      (if permits window now s a then [a] else []) (s.add a) := by
  intro p
  have hannounce : Takes clock notify (announce window now) s a
      (if permits window now s a then [a] else []) s := takes_announce hs window now
  have hcreate : Takes clock notify create s a [] (s.add a) := takes_create hs ha
  obtain ⟨calls, p', hrun, hfail, htold⟩ := hannounce p
  obtain ⟨calls', p'', hrun', hfail', htold'⟩ := hcreate p'
  refine ⟨calls ++ calls', p'', ?_, hfail'.trans hfail, ?_⟩
  · rw [recordNew, Course.run_bind_of_ok hrun, hrun']
    rfl
  · rw [announced_append, htold, htold', List.append_nil]

/-- **A loop of steps that take effect takes the effects of all of them**, one after the other. -/
theorem run_each_prompt {step : Progress → Alert → Course Progress} {f : Store → Alert → Store}
    {told : Alert → List Alert} {as : List Alert} (p : Progress)
    (h : ∀ before b rest, as = before ++ b :: rest → Takes clock notify step (before.foldl f s) b
      (told b) (f (before.foldl f s) b)) :
    ∃ calls p', (each step as p).run (.prompt clock notify) s = ⟨calls, .ok p', as.foldl f s⟩ ∧
      p'.failures = p.failures ∧ announced calls = as.flatMap told := by
  induction as generalizing s p with
  | nil => exact ⟨[], p, rfl, rfl, rfl⟩
  | cons a as ih =>
    obtain ⟨calls, p', hrun, hfail, htold⟩ := h [] a as rfl p
    obtain ⟨calls', p'', hrun', hfail', htold'⟩ := ih (s := f s a) p' fun before b rest e =>
      h (a :: before) b rest (by rw [e]; rfl)
    refine ⟨calls ++ calls', p'', ?_, hfail'.trans hfail, ?_⟩
    · rw [List.foldl_nil] at hrun
      rw [each, Course.run_bind_of_ok hrun, hrun']
      rfl
    · rw [announced_append, htold, htold', List.flatMap_cons]

/-- A list of the alerts that pass a test, one by one. -/
theorem flatMap_ite_singleton (keep : Alert → Bool) (as : List Alert) :
    (as.flatMap fun b => if keep b then [b] else []) = as.filter keep := by
  induction as with
  | nil => rfl
  | cons b as ih =>
    rw [List.flatMap_cons, ih, List.filter_cons]
    split <;> rfl

/-! ## 2. What look-ups find during a pass -/

variable {x : Pass}

/-- **While a pass creates alerts, a look-up for the next one finds what it would have found at
the beginning.** -/
theorem select_resolvedFor (hx : x.Unnamed) (hf : x.DrawsFresh s) {before rest : List Alert}
    (h : x.created s = before ++ a :: rest) :
    (before.foldl Store.add ((x.plan s).updated.foldl Store.add s)).select (.resolvedFor a.key) =
      s.select (.resolvedFor a.key) := by
  have hstatus : ∀ b : Alert, b.status = .active → (Query.resolvedFor a.key).isMatch b = false := by
    intro b hb
    have hne : ¬ (Query.resolvedFor a.key).isMatch b = true := by
      rw [Query.isMatch_resolvedFor, hb]
      rintro ⟨e, _⟩
      cases e
    simpa using hne
  rw [Store.select_foldl_add, Store.select_foldl_add]
  · -- what is written over was active, and is active still
    intro u hu
    obtain ⟨r, d, hr, _, hsucceed⟩ := mem_updated_plan_iff.mp hu
    refine hstatus u ?_
    rw [← Alert.settled_of_succeed hsucceed, Alert.status_settled]
    exact Query.status_of_isMatch_inScope hr.isMatch
  · intro u hu r hr
    obtain ⟨r', d, hstands, _, hsucceed⟩ := mem_updated_plan_iff.mp hu
    rw [← Alert.settled_of_succeed hsucceed, Alert.id_settled, Store.get?_of_mem hstands.mem] at hr
    rw [← Option.some.inj hr]
    exact hstatus r' (Query.status_of_isMatch_inScope hstands.isMatch)
  · -- what is created is an attempted enforcement, or has another key
    intro b hb
    have hpair := pairwise_key_created x s
    rw [h, List.pairwise_append] at hpair
    have hne : ¬ (Query.resolvedFor a.key).isMatch b = true := by
      rw [Query.isMatch_resolvedFor]
      rintro ⟨hresolved, hkey⟩
      rcases hpair.2.2 b hb a List.mem_cons_self with hattempted | hother
      · rw [hresolved] at hattempted
        cases hattempted
      · exact hother hkey
    simpa using hne
  · intro b hb r hr
    have hmem : b ∈ x.created s := h ▸ List.mem_append_left _ hb
    have hnone := get?_of_mem_created hx hf hmem
    rw [Store.get?_foldl_add_of_not_mem, hnone] at hr
    · cases hr
    · intro u hu e
      obtain ⟨r', hr'⟩ := get?_of_mem_updated hu
      rw [e, hnone] at hr'
      cases hr'

/-! ## 3. The whole pass -/

/-- What a pass is going to announce. -/
def notices (x : Pass) (s : Store) : List Alert := (x.created s).filter (permits x.window x.now s)

section Loops

variable (clock : Call → Instant) (notify : Alert → Except NotifyError Unit) (hs : s.denied = false)
include hs

theorem run_updates_prompt (x : Pass) (p : Progress) :
    ∃ calls p', (each update (x.plan s).updated p).run (.prompt clock notify) s =
        ⟨calls, .ok p', (x.plan s).updated.foldl Store.add s⟩ ∧
      p'.failures = p.failures ∧ announced calls = [] := by
  have hsteps : ∀ before b rest, (x.plan s).updated = before ++ b :: rest →
      Takes clock notify update (before.foldl Store.add s) b []
        ((before.foldl Store.add s).add b) := by
    intro before b rest e
    have hb : b ∈ (x.plan s).updated := e ▸ List.mem_append_right _ List.mem_cons_self
    exact takes_update (by simpa using hs) (id_of_mem_updated hb)
  obtain ⟨calls, p', hrun, hfail, htold⟩ := run_each_prompt p hsteps
  exact ⟨calls, p', hrun, hfail, htold.trans (List.flatMap_eq_nil_iff.mpr fun _ _ => rfl)⟩

variable (hx : x.Unnamed) (hf : x.DrawsFresh s)
include hx hf

theorem run_creations_prompt (p : Progress) :
    ∃ calls p', (each (recordNew x.window x.now) (x.created s) p).run (.prompt clock notify)
        ((x.plan s).updated.foldl Store.add s) =
        ⟨calls, .ok p', ((x.plan s).updated ++ x.created s).foldl Store.add s⟩ ∧
      p'.failures = p.failures ∧ announced calls = x.notices s := by
  have hsteps : ∀ before b rest, x.created s = before ++ b :: rest →
      Takes clock notify (recordNew x.window x.now)
        (before.foldl Store.add ((x.plan s).updated.foldl Store.add s)) b
        (if permits x.window x.now s b then [b] else [])
        ((before.foldl Store.add ((x.plan s).updated.foldl Store.add s)).add b) := by
    intro before b rest e
    have hb : b ∈ x.created s := e ▸ List.mem_append_right _ List.mem_cons_self
    rw [permits, ← select_resolvedFor hx hf e]
    exact takes_recordNew (by simpa using hs) (id_of_mem_created hf hb) x.window x.now
  have h := run_each_prompt p hsteps
  rw [List.foldl_append]
  rwa [flatMap_ite_singleton] at h

/-- Whatever has been retired so far, the next stale record is there still. -/
theorem run_retirements_prompt (p : Progress) :
    ∃ calls p', (each retire (x.plan s).stale p).run (.prompt clock notify)
        (((x.plan s).updated ++ x.created s).foldl Store.add s) =
        ⟨calls, .ok p', x.fulfilled s clock⟩ ∧
      p'.failures = p.failures ∧ announced calls = [] := by
  have hsteps : ∀ before b rest, (x.plan s).stale = before ++ b :: rest →
      Takes clock notify retire
        (before.foldl (fun s b => s.retire (clock (.markStale b.id)) b.id)
          (((x.plan s).updated ++ x.created s).foldl Store.add s)) b []
        ((before.foldl (fun s b => s.retire (clock (.markStale b.id)) b.id)
          (((x.plan s).updated ++ x.created s).foldl Store.add s)).retire
            (clock (.markStale b.id)) b.id) := by
    intro before b rest e
    have hmem : b ∈ (x.plan s).stale := e ▸ List.mem_append_right _ List.mem_cons_self
    have hpart : PartOf x s (x.plan s).updated (x.created s) before :=
      ⟨fun _ => id, fun _ => id, fun c hc => e ▸ List.mem_append_left _ hc⟩
    have hget := get?_carriedOut_of_mem clock hx hf hpart (mem_stale_plan_iff.mp hmem).1
    have hdenied := Store.denied_foldl_retire (fun id => clock (.markStale id)) (before.map (·.id))
      (((x.plan s).updated ++ x.created s).foldl Store.add s)
    rw [List.foldl_map, Store.denied_foldl_add, hs] at hdenied
    rw [← apply_ite some, Store.carriedOut, List.foldl_map] at hget
    exact takes_retire hdenied hget
  obtain ⟨calls, p', hrun, hfail, htold⟩ := run_each_prompt p hsteps
  refine ⟨calls, p', ?_, hfail, htold.trans (List.flatMap_eq_nil_iff.mpr fun _ _ => rfl)⟩
  rw [hrun, fulfilled, Store.carriedOut, List.foldl_map]

/-- **A pass that nothing gets in the way of succeeds**: it does all of what it planned, and
announces what the quiet window lets it. -/
theorem run_prompt :
    ∃ calls report, x.run (.prompt clock notify) s =
        ⟨calls, .ok (.ok report), x.fulfilled s clock⟩ ∧ announced calls = x.notices s := by
  obtain ⟨calls, p, hrun, hfail, htold⟩ := run_updates_prompt clock notify hs x
    (.start (x.plan s).unchanged.length)
  obtain ⟨calls', p', hrun', hfail', htold'⟩ := run_creations_prompt clock notify hs hx hf p
  obtain ⟨calls'', p'', hrun'', hfail'', htold''⟩ := run_retirements_prompt clock notify hs hx hf p'
  have hfinish : p''.finish = .ok p''.report := by
    rw [Progress.finish, hfail''.trans (hfail'.trans hfail)]
    rfl
  refine ⟨[.search (.inScope x.filters)] ++ (calls ++ (calls' ++ calls'')), p''.report, ?_, ?_⟩
  · show Course.run _ (.ask (.search (.inScope x.filters)) _) s = _
    rw [run_ask_prompt, answer_search hs]
    show Run.after (Course.run _ (x.carryOut (x.plan s) >>= _) s) _ = _
    rw [Course.run_bind, carryOut, Course.run_bind_of_ok hrun, ← created,
      Course.run_bind_of_ok hrun', hrun'']
    show Run.after (Run.after (Course.run _ (Course.done p''.finish) _) _) _ = _
    rw [hfinish]
    simp [Run.after]
  · rw [announced_append, announced_append, announced_append, htold, htold', htold'',
      List.append_nil]
    rfl

end Loops

end Pass

end AlertLedger
