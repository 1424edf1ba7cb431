import AlertLedger.Proofs.Call.Fate
import AlertLedger.Proofs.Pass.CallOrder

/-!
# Faults in a pass

A pass whose calls may fail or time out, but that nobody interrupts, attempts every write of its
plan once and in order. A write that fails has no effect and is noted, and it alters nothing about
the others: the store is the one after all the writes that do not fail, and the pass reports just
those that do (`isolates_run`). Look-ups and announcements may fail as they like.

Every step of a pass reads first and then makes one write (`Attempts`). What comes of the write
depends on its fate alone, as long as the store accepts it (`Store.Meets.of_accepts`): so what has
to be shown on the way is that the store, whatever has failed before, accepts the next write of the
plan.
-/

namespace AlertLedger

/-! ## 1. Writes -/

/-- A write of a pass. -/
structure Write where
  kind : WriteKind
  alert : Alert

namespace Write

/-- The call that makes a write. -/
def call (w : Write) : Call :=
  match w.kind with
  | .upsert => .upsert w.alert
  | .markStale => .markStale w.alert.id

/-- The store after a write. -/
def effect (now : Instant) (s : Store) (w : Write) : Store := s.effect now w.call

/-- What a pass notes about a write that was refused. -/
def failure (w : Write) (e : StoreError) : WriteFailure := ⟨w.alert.key, w.alert.id, w.kind, e⟩

/-- The failure of a write with a fate, if it fails. -/
def failure? (fate : Call → Fate) (w : Write) : Option WriteFailure :=
  ((fate w.call).cause? w.call).map w.failure

theorem writes_call (w : Write) : w.call.writes = true := by
  obtain ⟨kind, a⟩ := w
  cases kind <;> rfl

end Write

namespace Store

/-- The store after those of a row of writes that do not fail. -/
def afterWrites (now : Instant) (fate : Call → Fate) (s : Store) (ws : List Write) : Store :=
  (ws.filter fun w => (w.failure? fate).isNone).foldl (Write.effect now) s

/-- A store in which a write can be made. -/
def Accepts (s : Store) : Call → Prop
  | .upsert a => s.denied = false ∧ a.id ≠ ""
  | .markStale id => s.denied = false ∧ ∃ r, s.get? id = some r
  | _ => True

variable {now : Instant} {fate : Call → Fate} {s : Store}

theorem afterWrites_append (ws vs : List Write) :
    s.afterWrites now fate (ws ++ vs) = (s.afterWrites now fate ws).afterWrites now fate vs := by
  simp only [afterWrites, List.filter_append, List.foldl_append]

theorem afterWrites_singleton (w : Write) :
    s.afterWrites now fate [w] = if (w.failure? fate).isNone then w.effect now s else s := by
  rw [afterWrites, List.filter_singleton]
  cases (w.failure? fate).isNone <;> rfl

/-- Records written and then others retired. -/
theorem foldl_effect (us ss : List Alert) :
    (us.map (⟨.upsert, ·⟩) ++ ss.map (⟨.markStale, ·⟩) : List Write).foldl (Write.effect now) s =
      s.carriedOut (fun _ => now) us ss := by
  rw [List.foldl_append, List.foldl_map, List.foldl_map, carriedOut, List.foldl_map]
  rfl

/-- Of records to be written and others to be retired, those whose write does not fail. -/
theorem afterWrites_eq_carriedOut (us ss : List Alert) :
    s.afterWrites now fate (us.map (⟨.upsert, ·⟩) ++ ss.map (⟨.markStale, ·⟩)) =
      s.carriedOut (fun _ => now) (us.filter fun a => (Write.failure? fate ⟨.upsert, a⟩).isNone)
        (ss.filter fun a => (Write.failure? fate ⟨.markStale, a⟩).isNone) := by
  rw [afterWrites, List.filter_append, List.filter_map, List.filter_map, foldl_effect]
  rfl

end Store

/-- **A write that the store accepts fails just if its fate has it**, for the reason that lies in
its fate, and then without effect. -/
theorem Store.Meets.of_accepts {now : Instant} {s s' : Store} {c : Call} {f : Fate}
    {attendance : Attendance c.Answer} (h : s.Meets now c f attendance s') (hc : c.writes = true)
    (hs : s.Accepts c) : Exchange.refusal? ⟨s, c, attendance, s'⟩ = f.cause? c ∧
      s' = if (f.cause? c).isNone then s.effect now c else s := by
  cases c with
  | upsert a =>
    cases h with
    | served announce =>
      rw [Pass.answer_upsert hs.1 hs.2]
      exact ⟨rfl, rfl⟩
    | failed e f => exact ⟨rfl, rfl⟩
    | timedOut limit => exact ⟨rfl, rfl⟩
  | markStale id =>
    cases h with
    | served announce =>
      obtain ⟨hdenied, r, hr⟩ := hs
      rw [Pass.answer_markStale hdenied hr]
      exact ⟨rfl, rfl⟩
    | failed e f => exact ⟨rfl, rfl⟩
    | timedOut limit => exact ⟨rfl, rfl⟩
  | _ => cases hc

/-- A search that finds records finds those of the store, and access is granted then. -/
theorem Store.Meets.of_search {now : Instant} {s s' : Store} {q : Query} {f : Fate}
    {records : List Alert} (h : s.Meets now (.search q) f (.answered (.ok records)) s') :
    s.denied = false ∧ records = s.select q := by
  generalize hanswer : (Attendance.answered (.ok records) :
    Attendance (Call.search q).Answer) = attendance at h
  cases h with
  | served announce =>
    have hsearch : Except.ok records = s.search q := Attendance.answered.inj hanswer
    rw [Store.search] at hsearch
    split at hsearch <;> rename_i hdenied
    · cases hsearch
    · exact ⟨by simpa using hdenied, Except.ok.inj hsearch⟩
  | failed e f => cases hanswer
  | timedOut limit => cases hanswer

/-! ## 2. What comes of a step -/

namespace Pass

variable {now : Instant} {fate : Call → Fate} {s s' s'' : Store} {p p' p'' : Progress}
  {es fs : List Exchange} {ws vs : List Write} {a : Alert}

/-- A step that reads first and then makes one write, and notes it if the write is refused. -/
def Attempts (w : Write) (p : Progress) (es : List Exchange) (p' : Progress) : Prop :=
  ∃ reads e, es = reads ++ [e] ∧ (∀ d ∈ reads, d.call.writes = false) ∧ e.call = w.call ∧
    p'.failures = p.failures ++ (e.refusal?.map w.failure).toList

theorem attempts_update (h : (update p a).Goes es p') : Attempts ⟨.upsert, a⟩ p es p' := by
  obtain ⟨e, rfl, hcall, rfl⟩ := goes_update h
  refine ⟨[], e, rfl, by simp, hcall, ?_⟩
  cases e.refusal? with
  | none => exact (List.append_nil _).symm
  | some error => rfl

theorem attempts_recordNew {window : Span} {clock : Instant}
    (h : (recordNew window clock p a).Goes es p') : Attempts ⟨.upsert, a⟩ p es p' := by
  obtain ⟨reads, last, q, rfl, hannounce, hcreate⟩ := Course.exists_of_goes_bind h
  obtain ⟨e, rfl, hcall, rfl⟩ := goes_create hcreate
  have hq : q.failures = p.failures := by
    obtain ⟨asked, _, ⟨_, _, rfl⟩ | ⟨_, _, _, _, rfl | rfl⟩⟩ := goes_announce hannounce <;> rfl
  have hreads : (announce window clock p a).Reads := reads_announce window clock p a
  refine ⟨reads, e, rfl, hreads.of_goes hannounce, hcall, ?_⟩
  rw [← hq]
  cases e.refusal? with
  | none => exact (List.append_nil _).symm
  | some error => rfl

theorem attempts_retire (h : (retire p a).Goes es p') : Attempts ⟨.markStale, a⟩ p es p' := by
  obtain ⟨e, rfl, hcall, rfl⟩ := goes_retire h
  refine ⟨[], e, rfl, by simp, hcall, ?_⟩
  cases e.refusal? with
  | none => exact (List.append_nil _).symm
  | some error => rfl

/-- Writes are attempted, those that do not fail have their effect, and those that fail are
noted. -/
structure Lands (now : Instant) (fate : Call → Fate) (ws : List Write) (p : Progress) (s : Store)
    (es : List Exchange) (p' : Progress) (s' : Store) : Prop where
  attempted : (es.map (·.call)).filter Call.writes = ws.map Write.call
  store : s' = s.afterWrites now fate ws
  failures : p'.failures = p.failures ++ ws.filterMap (Write.failure? fate)

theorem Lands.append (h : Lands now fate ws p s es p' s')
    (h' : Lands now fate vs p' s' fs p'' s'') :
    Lands now fate (ws ++ vs) p s (es ++ fs) p'' s'' where
  attempted := by
    rw [List.map_append, List.filter_append, h.attempted, h'.attempted, List.map_append]
  store := by rw [h'.store, h.store, Store.afterWrites_append]
  failures := by rw [h'.failures, h.failures, List.filterMap_append, List.append_assoc]

theorem Attempts.lands {w : Write} (h : Attempts w p es p') (hleads : Leads s es s')
    (hes : ∀ e ∈ es, e.Follows now fate) (hs : s.Accepts w.call) :
    Lands now fate [w] p s es p' s' := by
  obtain ⟨reads, e, rfl, hreads, hcall, hfailures⟩ := h
  obtain ⟨r, hfirst, hlast⟩ := hleads.exists_of_append
  -- the store is still as it was when it comes to the write
  have hr : r = s := by
    refine (hfirst.invariant (I := (· = s)) rfl fun d hd heq => ?_).2
    obtain ⟨f, _, hmeets⟩ := hes d (List.mem_append_left _ hd)
    exact (hmeets.eq_of_reads (hreads d hd)).trans heq
  subst hr
  obtain ⟨hbefore, hafter⟩ : e.before = r ∧ e.after = s' := by
    cases hlast with
    | cons _ rest => exact ⟨rfl, rest.eq_of_nil.symm⟩
  have hwrites : e.call.writes = true := hcall ▸ w.writes_call
  obtain ⟨f, hfate, hmeets⟩ := hes e (List.mem_append_right _ List.mem_cons_self)
  have hmade := hmeets.of_accepts hwrites (by rwa [hcall, hbefore])
  rw [hfate hwrites] at hmade
  have hfailure : e.refusal?.map w.failure = w.failure? fate := by
    rw [Write.failure?, ← hcall]
    exact congrArg _ hmade.1
  have hstore : s' = if (w.failure? fate).isNone then w.effect now r else r := by
    rw [Write.failure?, Option.isNone_map, Write.effect, ← hcall, ← hbefore, ← hafter]
    exact hmade.2
  refine ⟨?_, ?_, ?_⟩
  · have hnone : (reads.map (·.call)).filter Call.writes = [] := by
      rw [List.filter_eq_nil_iff]
      intro c hc
      obtain ⟨d, hd, rfl⟩ := List.mem_map.mp hc
      simp [hreads d hd]
    rw [List.map_append, List.filter_append, hnone, List.map_singleton, List.filter_singleton,
      hwrites, hcall]
    rfl
  · rw [Store.afterWrites_singleton, hstore]
  · rw [hfailures, hfailure, List.filterMap_cons]
    cases w.failure? fate <;> rfl

/-- **A loop of writes lands**, if the store accepts each of them after those before it. -/
theorem lands_of_goes_each {step : Progress → Alert → Course Progress} {kind : WriteKind}
    {as : List Alert} (h : (each step as p).Goes es p') (hleads : Leads s es s')
    (hes : ∀ e ∈ es, e.Follows now fate)
    (hstep : ∀ p a es p', (step p a).Goes es p' → Attempts ⟨kind, a⟩ p es p')
    (hs : ∀ before a rest, as = before ++ a :: rest →
      (s.afterWrites now fate (before.map (⟨kind, ·⟩))).Accepts (Write.call ⟨kind, a⟩)) :
    Lands now fate (as.map (⟨kind, ·⟩)) p s es p' s' := by
  induction as generalizing p s es with
  | nil =>
    obtain ⟨rfl, rfl⟩ := h
    exact ⟨rfl, hleads.eq_of_nil, (List.append_nil _).symm⟩
  | cons a as ih =>
    obtain ⟨first, rest, q, rfl, hfirst, hrest⟩ := Course.exists_of_goes_bind h
    obtain ⟨r, hr, hs'⟩ := hleads.exists_of_append
    have hlands : Lands now fate [⟨kind, a⟩] p s first q r :=
      (hstep p a first q hfirst).lands hr (fun e he => hes e (List.mem_append_left _ he))
        (hs [] a as rfl)
    refine hlands.append (ih hrest hs' (fun e he => hes e (List.mem_append_right _ he)) ?_)
    intro before b rest e
    rw [hlands.store, ← Store.afterWrites_append]
    exact hs (a :: before) b rest (congrArg (a :: ·) e)

/-! ## 3. The writes of a plan -/

/-- The writes that a pass is going to make, in order. -/
def writes (x : Pass) (s : Store) : List Write :=
  ((x.plan s).updated ++ x.created s).map (⟨.upsert, ·⟩) ++ (x.plan s).stale.map (⟨.markStale, ·⟩)

theorem denied_afterWrites (s : Store) (ws : List Write) :
    (s.afterWrites now fate ws).denied = s.denied := by
  have heffect : ∀ (ws : List Write) (s : Store),
      (ws.foldl (Write.effect now) s).denied = s.denied := by
    intro ws
    induction ws with
    | nil => exact fun _ => rfl
    | cons w ws ih =>
      intro s
      obtain ⟨kind, a⟩ := w
      rw [List.foldl_cons, ih]
      cases kind with
      | upsert => exact Store.denied_add s a
      | markStale => exact Store.denied_retire now s a.id
  exact heffect _ s

section Plan

variable {x : Pass} (hs : s.denied = false) (hx : x.Unnamed) (hf : x.DrawsFresh s)
include hs hx hf

/-- Whatever has failed before, a stale record is there still when its turn comes. -/
theorem accepts_retirement {before rest : List Alert}
    (h : (x.plan s).stale = before ++ a :: rest) :
    ((s.afterWrites now fate (((x.plan s).updated ++ x.created s).map (⟨.upsert, ·⟩))).afterWrites
      now fate (before.map (⟨.markStale, ·⟩))).Accepts (.markStale a.id) := by
  have ha : a ∈ (x.plan s).stale := h ▸ List.mem_append_right _ List.mem_cons_self
  refine ⟨by rw [denied_afterWrites, denied_afterWrites, hs], ?_⟩
  rw [← Store.afterWrites_append, Store.afterWrites_eq_carriedOut, List.filter_append]
  rw [get?_carriedOut_of_mem (fun _ => now) hx hf ⟨fun u hu => (List.mem_filter.mp hu).1,
    fun b hb => (List.mem_filter.mp hb).1, fun b hb => ?_⟩ (mem_stale_plan_iff.mp ha).1]
  · split <;> exact ⟨_, rfl⟩
  · rw [h]
    exact List.mem_append_left _ (List.mem_filter.mp hb).1

/-- **Carrying out a plan lands all of its writes.** -/
theorem lands_carryOut (h : (x.carryOut (x.plan s)).Goes es p') (hleads : Leads s es s')
    (hes : ∀ e ∈ es, e.Follows now fate) :
    Lands now fate (x.writes s) (.start (x.plan s).unchanged.length) s es p' s' := by
  obtain ⟨updates, rest, q, rfl, hupdates, hrest⟩ := Course.exists_of_goes_bind h
  obtain ⟨creations, retirements, q', rfl, hcreations, hretirements⟩ :=
    Course.exists_of_goes_bind hrest
  obtain ⟨s₁, hs₁, hleads'⟩ := hleads.exists_of_append
  obtain ⟨s₂, hs₂, hs'⟩ := hleads'.exists_of_append
  have hupserts : ∀ as : List Alert, (∀ a ∈ as, a.id ≠ "") → ∀ s' : Store, s'.denied = false →
      ∀ before a rest, as = before ++ a :: rest →
        (s'.afterWrites now fate (before.map (⟨.upsert, ·⟩))).Accepts (.upsert a) := by
    intro as has s' hs' before a rest e
    refine ⟨by rw [denied_afterWrites, hs'], has a ?_⟩
    rw [e]
    exact List.mem_append_right _ List.mem_cons_self
  have h₁ : Lands now fate ((x.plan s).updated.map (⟨.upsert, ·⟩)) _ s updates q s₁ :=
    lands_of_goes_each hupdates hs₁ (fun e he => hes e (List.mem_append_left _ he))
      (fun _ _ _ _ => attempts_update) (hupserts _ (fun u hu => id_of_mem_updated hu) s hs)
  have hdenied : s₁.denied = false := by rw [h₁.store, denied_afterWrites, hs]
  have h₂ : Lands now fate ((x.created s).map (⟨.upsert, ·⟩)) q s₁ creations q' s₂ :=
    lands_of_goes_each hcreations hs₂
      (fun e he => hes e (List.mem_append_right _ (List.mem_append_left _ he)))
      (fun _ _ _ _ => attempts_recordNew)
      (hupserts _ (fun b hb => id_of_mem_created hf hb) s₁ hdenied)
  have h₁₂ := h₁.append h₂
  rw [← List.map_append] at h₁₂
  have h₃ : Lands now fate ((x.plan s).stale.map (⟨.markStale, ·⟩)) q' s₂ retirements p' s' := by
    refine lands_of_goes_each hretirements hs'
      (fun e he => hes e (List.mem_append_right _ (List.mem_append_right _ he)))
      (fun _ _ _ _ => attempts_retire) fun before a rest e => ?_
    rw [h₁₂.store]
    exact accepts_retirement hs hx hf e
  rw [← List.append_assoc]
  exact h₁₂.append h₃

omit hs in
/-- **No two writes of a pass are one call.** -/
theorem nodup_writes : ((x.writes s).map Write.call).Nodup := by
  have hmap : (x.writes s).map Write.call = ((x.plan s).updated ++ x.created s).map Call.upsert ++
      (x.plan s).stale.map fun a => Call.markStale a.id := by
    rw [writes, List.map_append, List.map_map, List.map_map]
    rfl
  have hupserts : ((x.plan s).updated ++ x.created s).Nodup := by
    refine List.nodup_append.mpr ⟨Plan.nodup_updated .., (nodup_ids_created hx hf).of_map, ?_⟩
    rintro a ha b hb rfl
    obtain ⟨r, hr⟩ := get?_of_mem_updated ha
    rw [get?_of_mem_created hx hf hb] at hr
    cases hr
  rw [hmap]
  refine List.nodup_append.mpr ⟨?_, ?_, ?_⟩
  · exact hupserts.map fun a b e => Call.upsert.inj e
  · refine (Plan.nodup_stale x.batch (s.nodup_select _)).map_on fun a ha b hb e => ?_
    exact Store.eq_of_id_eq (mem_stale_plan_iff.mp ha).1 (mem_stale_plan_iff.mp hb).1
      (Call.markStale.inj e)
  · intro c hc d hd e
    obtain ⟨a, _, rfl⟩ := List.mem_map.mp hc
    obtain ⟨b, _, rfl⟩ := List.mem_map.mp hd
    cases e

end Plan

/-! ## 4. A whole pass -/

/-- What a pass is going to report, if some of its writes are to fail. -/
def failures (x : Pass) (s : Store) (fate : Call → Fate) : List WriteFailure :=
  (x.writes s).filterMap (Write.failure? fate)

/-- What a pass owes whose calls may fail: `r` is its run, `s` and `s'` are the stores before and
after it. -/
structure Isolates {σ : Type} (x : Pass) (s : Store) (now : Instant) (fate : Call → Fate)
    (r : Run σ (Except PassError Report)) (s' : Store) : Prop where
  /-- Every write is attempted once, and in order. -/
  attempted : r.calls.filter Call.writes = (x.writes s).map Write.call
  once : (r.calls.filter Call.writes).Nodup
  /-- The writes that do not fail have their effect. -/
  store : s' = s.afterWrites now fate (x.writes s)
  /-- If none is to fail, they make the store after a pass that nothing gets in the way of. -/
  faultless : ∀ notify, (x.run (.prompt (fun _ => now) notify) s).final =
    s.afterWrites now (fun _ => .served) (x.writes s)
  succeeds : x.failures s fate = [] → ∃ report, verdict r = .ok report
  reports : x.failures s fate ≠ [] → verdict r = .error (.persist (x.failures s fate))
  /-- Access was denied if it was denied to one of the writes. -/
  denies : ∀ error, verdict r = .error error → (error.isAccessDenied = true ↔
    ∃ w ∈ x.writes s, ∃ what, (fate w.call).cause? w.call = some (.accessDenied what))

section Runs

variable {σ : Type} {w : Collaborators σ} {store : σ → Store} {live : σ → Prop}

theorem afterWrites_served (x : Pass) (s : Store) (now : Instant) :
    s.afterWrites now (fun _ => .served) (x.writes s) = x.fulfilled s fun _ => now := by
  rw [writes, Store.afterWrites_eq_carriedOut]
  simp [Write.failure?, Fate.cause?, fulfilled]

/-- What comes of writes that have landed is a success, or the report of those that failed. -/
theorem finish_of_lands (h : Lands now fate ws p s es p' s') (hp : p.failures = []) :
    p'.finish = match ws.filterMap (Write.failure? fate) with
      | [] => .ok p'.report
      | failures => .error (.persist failures) := by
  have hnoted : p'.failures = ws.filterMap (Write.failure? fate) := by
    rw [h.failures, hp, List.nil_append]
  rw [← hnoted]
  rfl

/-- Access was denied to a pass that reports its writes if it was denied to one of them. -/
theorem isAccessDenied_persist_iff {x : Pass} :
    (PassError.persist (x.failures s fate)).isAccessDenied = true ↔
      ∃ w ∈ x.writes s, ∃ what, (fate w.call).cause? w.call = some (.accessDenied what) := by
  have hdenied : ∀ e : StoreError, e.isAccessDenied = true ↔ ∃ what, e = .accessDenied what := by
    intro e
    cases e <;> simp [StoreError.isAccessDenied]
  rw [PassError.isAccessDenied, List.any_eq_true, failures]
  constructor
  · rintro ⟨failure, hmem, hcause⟩
    obtain ⟨w, hw, hfailure⟩ := List.mem_filterMap.mp hmem
    obtain ⟨e, he, rfl⟩ := Option.map_eq_some_iff.mp hfailure
    obtain ⟨what, rfl⟩ := (hdenied e).mp hcause
    exact ⟨w, hw, what, he⟩
  · rintro ⟨w, hw, what, hcause⟩
    refine ⟨w.failure (.accessDenied what), List.mem_filterMap.mpr ⟨w, hw, ?_⟩, rfl⟩
    rw [Write.failure?, hcause]
    rfl

/-- Once its records are found, a pass isolates the faults of its calls. -/
theorem isolates_of_search_ok (hw : w.Follows store live now fate) {x : Pass} {t t' : σ}
    (h : w.attend t (.search (.inScope x.filters)) =
      (.answered (.ok ((store t).select (.inScope x.filters))), t'))
    (ht' : live t') (hstore : store t' = store t) (hs : (store t).denied = false) (hx : x.Unnamed)
    (hf : x.DrawsFresh (store t)) :
    x.Isolates (store t) now fate (x.run w t) (store (x.run w t).final) := by
  obtain ⟨p, houtcome, hgoes, hleads⟩ :=
    goes_trace store hw.uninterrupted (x.carryOut (x.plan (store t))) ht'
  have hes := forall_mem_trace store hw.uninterrupted (x.carryOut (x.plan (store t))) ht' hw.follows
  rw [hstore] at hleads
  have hlands := lands_carryOut hs hx hf hgoes hleads hes
  have hrun := run_of_carryOut h houtcome
  have hfinish : verdict (x.run w t) = match x.failures (store t) fate with
      | [] => .ok p.report
      | failures => .error (.persist failures) := by
    rw [hrun]
    exact finish_of_lands hlands rfl
  have hattempted : (x.run w t).calls.filter Call.writes = (x.writes (store t)).map Write.call := by
    have hmade := hlands.attempted
    rw [map_call_trace] at hmade
    rw [hrun]
    exact hmade
  refine ⟨hattempted, ?_, ?_, ?_, ?_, ?_, ?_⟩
  · rw [hattempted]
    exact nodup_writes hx hf
  · rw [hrun]
    exact hlands.store
  · intro notify
    obtain ⟨_, _, hprompt, _⟩ := run_prompt (fun _ => now) notify hs hx hf
    rw [hprompt, afterWrites_served]
  · intro hnone
    exact ⟨p.report, by rw [hfinish, hnone]⟩
  · intro hsome
    rw [hfinish]
    split
    · contradiction
    · rfl
  · intro error herror
    rw [hfinish] at herror
    split at herror
    · cases herror
    · obtain rfl := Except.error.inj herror
      exact isAccessDenied_persist_iff

/-- **A pass isolates the faults of its calls**: if the search for its records fails, it reports
that and does nothing; otherwise it attempts every write of its plan, and reports those that fail
and no others. -/
theorem isolates_run (hw : w.Follows store live now fate) (x : Pass) (t : σ) (ht : live t)
    (hx : x.Unnamed) (hf : x.DrawsFresh (store t)) :
    (∃ e, (w.attend t (.search (.inScope x.filters))).1 = .answered (.error e) ∧
      verdict (x.run w t) = .error (.query e) ∧
      (x.run w t).calls = [.search (.inScope x.filters)] ∧
      store (x.run w t).final = store t) ∨
    ∃ records, (w.attend t (.search (.inScope x.filters))).1 = .answered (.ok records) ∧
      x.Isolates (store t) now fate (x.run w t) (store (x.run w t).final) := by
  obtain ⟨answer, t', h, ht'⟩ := hw.uninterrupted t (.search (.inScope x.filters)) ht
  obtain ⟨f, _, hmeets⟩ := hw.follows t (.search (.inScope x.filters)) ht
  have hstore : store t' = store t := by
    have hread := hmeets.eq_of_reads rfl
    rwa [h] at hread
  rcases answer with e | records
  · refine .inl ⟨e, congrArg Prod.fst h, ?_⟩
    rw [run_of_search_error h]
    exact ⟨rfl, rfl, hstore⟩
  · have hfound : (store t).Meets now (.search (.inScope x.filters)) f (.answered (.ok records))
        (store t') := by
      rw [h] at hmeets
      exact hmeets
    obtain ⟨hs, rfl⟩ := hfound.of_search
    exact .inr ⟨_, congrArg Prod.fst h, isolates_of_search_ok hw h ht' hstore hs hx hf⟩

end Runs

/-- Connections take too long to be written, and nothing may be retired. -/
def delays (c : Call) : Option Nat := some (if c.kind = .upsert ∧ c.target = "net" then 5 else 0)

def refusals (c : Call) : Option StoreError :=
  if c.kind = .markStale then some (.accessDenied "records are kept") else none

/-- The collaborators of a pass that is hindered in this way. -/
def hindered : Collaborators (Timed Store) :=
  .timed .exact (some ⟨2⟩) none (Store.conduct (.hour 4) (fun _ => .ok ()) delays refusals)

/-- Of three writes one times out and one is refused. -/
theorem isolates_hindered :
    let start : Timed Store := ⟨twoRecords, 0, false⟩
    mixed.Isolates twoRecords (.hour 4) (.ofDelay (some ⟨2⟩) delays refusals)
      (mixed.run hindered start) (mixed.run hindered start).final.state ∧
    verdict (mixed.run hindered start) = .error (.persist
      [⟨⟨"net", "web"⟩, "x", .upsert, .unavailable "upsert_alert timed out after 2ns"⟩,
        ⟨⟨"root", "web"⟩, "b", .markStale, .accessDenied "records are kept"⟩]) := by
  intro start
  have hverdict : verdict (mixed.run hindered start) = .error (.persist
      [⟨⟨"net", "web"⟩, "x", .upsert, .unavailable "upsert_alert timed out after 2ns"⟩,
        ⟨⟨"root", "web"⟩, "b", .markStale, .accessDenied "records are kept"⟩]) := by cbv
  refine ⟨?_, hverdict⟩
  have hends : some (⟨2⟩ : Span) = none → ∀ c, delays c ≠ none := by simp
  have hfollows := conduct_follows (.hour 4) (fun _ => .ok ()) delays refusals hends
  rcases isolates_run hfollows mixed start rfl (by unfold Unnamed; decide)
    (drawsFresh_of_tally rfl (by decide)) with ⟨e, _, hquery, _⟩ | ⟨records, _, h⟩
  · have hquery' : verdict (mixed.run hindered start) = .error (.query e) := hquery
    rw [hverdict] at hquery'
    cases hquery'
  · exact h

end Pass

end AlertLedger
