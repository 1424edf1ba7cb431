import AlertLedger.Proofs.Call.Interruption
import AlertLedger.Proofs.Pass.Retry

/-!
# The order of calls in a pass

A pass that goes all the way asks for its records first, then writes over the records that change,
then goes through the new alerts, one after the other, and in the end retires what is stale
(`Accomplishes`). Each new alert is announced once and then written, or it is held back by a look-up
and written all the same (`Introduces`); whether the announcement succeeds makes no difference.

This holds whatever the collaborators answer, and the pass makes the first of these calls if they
interrupt it (`orderly_run`). One lemma for each step says what it asks and what it notes
(`goes_update`, `goes_create`, `goes_retire`, `goes_announce`).
-/

namespace AlertLedger

/-! ## 1. Steps -/

namespace Pass

variable {p p' : Progress} {a : Alert} {es : List Exchange}

theorem goes_update (h : (update p a).Goes es p') : ∃ e, es = [e] ∧ e.call = .upsert a ∧
    p' = match e.refusal? with
      | none => p.update a.key
      | some error => p.fail ⟨a.key, a.id, .upsert, error⟩ := by
  obtain ⟨s, answer, s', rest, rfl, h⟩ := h
  refine ⟨⟨s, .upsert a, .answered answer, s'⟩, ?_, rfl, ?_⟩ <;>
    rcases answer with error | u <;> obtain ⟨rfl, rfl⟩ := h <;> rfl

theorem goes_create (h : (create p a).Goes es p') : ∃ e, es = [e] ∧ e.call = .upsert a ∧
    p' = match e.refusal? with
      | none => p.create a.key
      | some error => p.fail ⟨a.key, a.id, .upsert, error⟩ := by
  obtain ⟨s, answer, s', rest, rfl, h⟩ := h
  refine ⟨⟨s, .upsert a, .answered answer, s'⟩, ?_, rfl, ?_⟩ <;>
    rcases answer with error | u <;> obtain ⟨rfl, rfl⟩ := h <;> rfl

theorem goes_retire (h : (retire p a).Goes es p') : ∃ e, es = [e] ∧ e.call = .markStale a.id ∧
    p' = match e.refusal? with
      | none => p.resolve a.key
      | some error => p.fail ⟨a.key, a.id, .markStale, error⟩ := by
  obtain ⟨s, answer, s', rest, rfl, h⟩ := h
  refine ⟨⟨s, .markStale a.id, .answered answer, s'⟩, ?_, rfl, ?_⟩ <;>
    rcases answer with error | u <;> obtain ⟨rfl, rfl⟩ := h <;> rfl

/-- A look-up that keeps a new alert from being announced. -/
def HoldsBack (window : Span) (now : Instant) (a : Alert) (e : Exchange) : Prop :=
  ∃ s records s', e = ⟨s, .searchResolved a.key, .answered (.ok records), s'⟩ ∧
    AlertLedger.mayAnnounce window a (lastResolved? records) now = false

variable {window : Span} {now : Instant}

theorem goes_mayAnnounce {permitted : Bool} (h : (mayAnnounce window now a).Goes es permitted) :
    es.map (·.call) = (if window.isZero then [] else [.searchResolved a.key]) ∧
      (permitted = false ↔ ∃ e ∈ es, HoldsBack window now a e) := by
  unfold mayAnnounce at h
  split at h <;> rename_i hw
  · obtain ⟨rfl, rfl⟩ := h
    simp [hw]
  · obtain ⟨s, answer, s', rest, rfl, h⟩ := h
    rw [if_neg hw]
    rcases answer with error | records
    · obtain ⟨rfl, rfl⟩ := h
      refine ⟨rfl, by simp, ?_⟩
      rintro ⟨e, he, t, records, t', rfl, _⟩
      cases List.mem_singleton.mp he
    · obtain ⟨rfl, rfl⟩ := h
      refine ⟨rfl, fun hfalse => ⟨_, List.mem_cons_self, s, records, s', rfl, hfalse⟩, ?_⟩
      rintro ⟨e, he, t, records', t', rfl, hfalse⟩
      cases List.mem_singleton.mp he
      exact hfalse

theorem goes_announce (h : (announce window now p a).Goes es p') :
    ∃ asked, asked.map (·.call) = (if window.isZero then [] else [.searchResolved a.key]) ∧
      ((es = asked ∧ (∃ e ∈ asked, HoldsBack window now a e) ∧ p' = p.suppress) ∨
        ∃ told, es = asked ++ [told] ∧ (∀ e ∈ asked, ¬ HoldsBack window now a e) ∧
          told.call = .dispatch a ∧ (p' = p.notify ∨ p' = p.missNotice)) := by
  obtain ⟨asked, rest, permitted, rfl, hasked, hrest⟩ := Course.exists_of_goes_bind h
  obtain ⟨hcalls, hfalse⟩ := goes_mayAnnounce hasked
  refine ⟨asked, hcalls, ?_⟩
  cases permitted with
  | false =>
    obtain ⟨rfl, rfl⟩ := hrest
    exact .inl ⟨List.append_nil asked, hfalse.mp rfl, rfl⟩
  | true =>
    obtain ⟨s, answer, s', last, rfl, hlast⟩ := hrest
    have hnone : ∀ e ∈ asked, ¬ HoldsBack window now a e := fun e he hold => by
      cases hfalse.mpr ⟨e, he, hold⟩
    refine .inr ⟨⟨s, .dispatch a, .answered answer, s'⟩, ?_, hnone, rfl, ?_⟩ <;>
      rcases answer with error | u <;> obtain ⟨rfl, rfl⟩ := hlast
    · rfl
    · rfl
    · exact .inr rfl
    · exact .inl rfl

/-! ## 2. New alerts -/

/-- The exchanges by which a new alert is introduced: looked up, announced once and then written,
whatever came of the announcement; or held back by the look-up, and then written. -/
inductive Introduces (window : Span) (now : Instant) (a : Alert) : List Exchange → Prop where
  | announced {asked : List Exchange} {told wrote : Exchange}
    (lookUp : asked.map (·.call) = if window.isZero then [] else [.searchResolved a.key])
    (permitted : ∀ e ∈ asked, ¬ HoldsBack window now a e)
    (announcement : told.call = .dispatch a) (writing : wrote.call = .upsert a) :
    Introduces window now a (asked ++ [told, wrote])
  | heldBack {asked wrote : Exchange} (lookUp : HoldsBack window now a asked)
    (writing : wrote.call = .upsert a) : Introduces window now a [asked, wrote]

theorem goes_recordNew (h : (recordNew window now p a).Goes es p') :
    Introduces window now a es := by
  obtain ⟨before, last, q, rfl, hannounce, hcreate⟩ := Course.exists_of_goes_bind h
  obtain ⟨wrote, rfl, hwrote, _⟩ := goes_create hcreate
  obtain ⟨asked, hasked, ⟨rfl, hold, _⟩ | ⟨told, rfl, hnone, htold, _⟩⟩ := goes_announce hannounce
  · -- something was asked, and it was the one look-up
    obtain ⟨e, he, hold⟩ := hold
    split at hasked
    · rw [List.map_eq_nil_iff.mp hasked] at he
      cases he
    · obtain ⟨d, rest, rfl, _, hrest⟩ := List.map_eq_cons_iff.mp hasked
      obtain rfl := List.map_eq_nil_iff.mp hrest
      cases List.mem_singleton.mp he
      exact .heldBack hold hwrote
  · rw [List.append_assoc]
    exact .announced hasked hnone htold hwrote

/-! ## 3. A whole pass -/

/-- **A loop goes through what each of its steps goes through**, one after the other. -/
theorem goes_each {step : Progress → Alert → Course Progress} {R : Alert → List Exchange → Prop}
    {as : List Alert} (h : (each step as p).Goes es p')
    (hstep : ∀ p a es p', (step p a).Goes es p' → R a es) :
    ∃ rows : List (List Exchange), es = rows.flatten ∧ List.Forall₂ R as rows := by
  induction as generalizing p es with
  | nil =>
    obtain ⟨rfl, _⟩ := h
    exact ⟨[], rfl, .nil⟩
  | cons a as ih =>
    obtain ⟨first, rest, q, rfl, hfirst, hrest⟩ := Course.exists_of_goes_bind h
    obtain ⟨rows, rfl, hrows⟩ := ih hrest
    exact ⟨first :: rows, rfl, .cons (hstep p a first q hfirst) hrows⟩

/-- A loop that makes one call for each alert makes these calls in order. -/
theorem calls_of_goes_each {step : Progress → Alert → Course Progress} {c : Alert → Call}
    {as : List Alert} (h : (each step as p).Goes es p')
    (hstep : ∀ p a es p', (step p a).Goes es p' → es.map (·.call) = [c a]) :
    es.map (·.call) = as.map c := by
  obtain ⟨rows, rfl, hrows⟩ := goes_each h hstep
  clear h
  induction hrows with
  | nil => rfl
  | cons hrow _ ih => rw [List.flatten_cons, List.map_append, hrow, ih, List.map_cons]; rfl

/-- The exchanges by which a plan is carried out: writes over the records that change, then the
introductions of the new alerts, then the retirements. -/
def CarriesOut (x : Pass) (plan : Plan) (es : List Exchange) : Prop :=
  ∃ (updates : List Exchange) (introductions : List (List Exchange))
    (retirements : List Exchange),
    es = updates ++ introductions.flatten ++ retirements ∧
      updates.map (·.call) = plan.updated.map .upsert ∧
      List.Forall₂ (Introduces x.window x.now) (identify x.freshId 0 plan.new) introductions ∧
      retirements.map (·.call) = plan.stale.map fun a => .markStale a.id

/-- The exchanges of a pass that goes all the way. -/
inductive Accomplishes (x : Pass) : List Exchange → Prop where
  | unanswered (s s' : Store) (error : StoreError) :
    Accomplishes x [⟨s, .search (.inScope x.filters), .answered (.error error), s'⟩]
  | carriedOut (s s' : Store) (records : List Alert) {rest : List Exchange}
    (carriesOut : x.CarriesOut (.of x.batch records) rest) :
    Accomplishes x (⟨s, .search (.inScope x.filters), .answered (.ok records), s'⟩ :: rest)

theorem carriesOut_of_goes {x : Pass} {plan : Plan} (h : (x.carryOut plan).Goes es p') :
    x.CarriesOut plan es := by
  obtain ⟨updates, rest, q, rfl, hupdates, hrest⟩ := Course.exists_of_goes_bind h
  obtain ⟨introduced, retirements, q', rfl, hintroduced, hretirements⟩ :=
    Course.exists_of_goes_bind hrest
  obtain ⟨introductions, rfl, hintroductions⟩ :=
    goes_each hintroduced fun _ _ _ _ => goes_recordNew
  refine ⟨updates, introductions, retirements, (List.append_assoc ..).symm, ?_, hintroductions, ?_⟩
  · refine calls_of_goes_each hupdates fun q a es q' hgoes => ?_
    obtain ⟨e, rfl, hcall, _⟩ := goes_update hgoes
    exact congrArg (fun c => [c]) hcall
  · refine calls_of_goes_each (c := fun a => .markStale a.id) hretirements fun q a es q' hgoes => ?_
    obtain ⟨e, rfl, hcall, _⟩ := goes_retire hgoes
    exact congrArg (fun c => [c]) hcall

/-- **A pass that goes all the way makes its calls in order.** -/
theorem accomplishes_of_goes {x : Pass} {result : Except PassError Report}
    (h : x.course.Goes es result) : x.Accomplishes es := by
  obtain ⟨s, answer, s', rest, rfl, hrest⟩ := h
  rcases answer with error | records
  · obtain ⟨rfl, _⟩ := hrest
    exact .unanswered s s' error
  · have hrow : (x.carryOut (.of x.batch records) >>= fun p => Course.done p.finish).Goes rest
        result := hrest
    obtain ⟨carried, last, p, rfl, hcarried, rfl, _⟩ := Course.exists_of_goes_bind hrow
    rw [List.append_nil]
    exact .carriedOut s s' records (carriesOut_of_goes hcarried)

theorem run_of_search_error {σ : Type} {w : Collaborators σ} {x : Pass} {t t' : σ} {e : StoreError}
    (h : w.attend t (.search (.inScope x.filters)) = (.answered (.error e), t')) :
    x.run w t = ⟨[.search (.inScope x.filters)], .ok (.error (.query e)), t'⟩ := by
  show Course.run w (.ask (.search (.inScope x.filters)) _) t = _
  rw [Course.run, h]
  rfl

theorem run_of_search_ok {σ : Type} {w : Collaborators σ} {x : Pass} {t t' : σ}
    {records : List Alert}
    (h : w.attend t (.search (.inScope x.filters)) = (.answered (.ok records), t')) :
    x.run w t = ((x.carryOut (.of x.batch records) >>= fun p => .done p.finish).run w t').after
      [.search (.inScope x.filters)] := by
  show Course.run w (.ask (.search (.inScope x.filters)) _) t = _
  rw [Course.run, h]
  rfl

/-- A pass that carries its plan out finishes. -/
theorem run_of_carryOut {σ : Type} {w : Collaborators σ} {x : Pass} {t t' : σ}
    {records : List Alert}
    (h : w.attend t (.search (.inScope x.filters)) = (.answered (.ok records), t'))
    (hp : ((x.carryOut (.of x.batch records)).run w t').outcome = .ok p) :
    x.run w t =
      ⟨.search (.inScope x.filters) :: ((x.carryOut (.of x.batch records)).run w t').calls,
        .ok p.finish, ((x.carryOut (.of x.batch records)).run w t').final⟩ := by
  rw [run_of_search_ok h, Course.run_bind, hp]
  simp [Run.after]

/-- **A pass announces before it writes, and an interruption only ends it early.** What it would do
if nobody interrupted it, it does in order; what it does is the beginning of that, up to at most
one call that is cut off. -/
theorem orderly_run {σ : Type} (x : Pass) (w : Collaborators σ) (store : σ → Store)
    (instead : σ → (c : Call) → c.Answer × σ) (t : σ) :
    x.Accomplishes (x.course.trace (w.persisting instead) store t) ∧
      (x.run w t).calls <+: (x.run (w.persisting instead) t).calls ∧
      ∃ completed, x.course.Completes w store instead t completed := by
  obtain ⟨_, _, hgoes, _⟩ :=
    goes_trace store (persisting_uninterrupted w instead) x.course (t := t) trivial
  exact ⟨accomplishes_of_goes hgoes, calls_run_isPrefix instead x.course t,
    exists_completes instead x.course t⟩

/-- Collaborators who take five nanoseconds for an announcement, and a deadline before that. -/
def hurried : Collaborators (Timed Store) :=
  .timed .exact none (some ⟨2⟩) <| Store.conduct (.hour 4) (fun _ => .ok ())
    (fun c => some (if c.kind = .dispatch then 5 else 0)) fun _ => none

/-- The deadline ends the pass at the announcement, with one record written over and nothing else
done. -/
theorem orderly_hurried :
    let start : Timed Store := ⟨twoRecords, 0, false⟩
    (∃ completed, mixed.course.Completes hurried Timed.state
        (fun t c => (c.timeoutAnswer .zero, t)) start completed ∧
      Leads twoRecords completed (mixed.run hurried start).final.state) ∧
    (mixed.run hurried start).calls.map Call.kind = [.search, .upsert, .dispatch] ∧
    (mixed.run hurried start).outcome = .error (.deadline "dispatch_notification") := by
  intro start
  have hclean : hurried.InterruptsCleanly Timed.state :=
    timed_interruptsCleanly id fun _ _ => rfl
  obtain ⟨_, _, completed, hcompleted⟩ := orderly_run mixed hurried Timed.state
    (fun t c => (c.timeoutAnswer .zero, t)) start
  exact ⟨⟨completed, hcompleted, hcompleted.leads hclean⟩, by cbv, by cbv⟩

end Pass

end AlertLedger
