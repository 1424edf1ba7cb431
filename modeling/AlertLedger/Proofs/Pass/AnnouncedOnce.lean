import AlertLedger.Proofs.Pass.Lifecycle

/-!
# A finding that stays detected is announced once

A series of passes over one scope watches a finding if each of them detects it, in scope and active
(`Watches`). Whatever goes wrong in the series, at most one announcement of the finding is followed
by the writing of the alert announced, and once an alert of the finding is written, or has been in
scope from the beginning, no later pass announces it again (`announced_once`).

The invariant is that the finding is on record: a record of it is in scope (`OnRecord`). A pass
under way keeps it (`OnRecord.underway`), a pass that finds it announces nothing for the finding
(`OnRecord.key_ne_of_mem_created`), and an alert that is written puts it on record
(`Attempt.onRecord_of_mem_written`). An alert announced whose id is not in use when its pass ends is
never written, for no later pass draws this id (`id_ne_of_mem_written_history`); so an alert that is
announced and written sooner or later is on record from the end of its own pass
(`onRecord_of_mem_handedOut`).
-/

namespace AlertLedger

/-! ## 1. What is written and what is announced -/

/-- The alerts that are written, as the answers have it. -/
def written (es : List Exchange) : List Alert := es.filterMap Exchange.written?

/-- The alerts that are handed to the notifier. -/
def handedOut (es : List Exchange) : List Alert := announced (es.map (·.call))

theorem handedOut_cons (e : Exchange) (es : List Exchange) :
    handedOut (e :: es) = handedOut [e] ++ handedOut es := announced_append [e.call] _

theorem written_append (es ds : List Exchange) : written (es ++ ds) = written es ++ written ds :=
  List.filterMap_append

theorem mem_written {es : List Exchange} {a : Alert} :
    a ∈ written es ↔ ∃ s s', ⟨s, .upsert a, .answered (.ok ()), s'⟩ ∈ es := by
  rw [written, List.mem_filterMap]
  constructor
  · rintro ⟨e, he, ha⟩
    obtain ⟨s, s', rfl⟩ := Exchange.exists_of_written? ha
    exact ⟨s, s', he⟩
  · rintro ⟨s, s', he⟩
    exact ⟨_, he, rfl⟩

theorem mem_written_cons {e : Exchange} {es : List Exchange} {a : Alert} (h : a ∈ written es) :
    a ∈ written (e :: es) := ((List.sublist_cons_self e es).filterMap _).subset h

/-! ## 2. What a course announces -/

/-- Whoever attends to a course, it announces no more than the given alerts, in their order. -/
structure Course.AnnouncesAmong {α : Type} (x : Course α) (as : List Alert) : Prop where
  sublist : ∀ {σ : Type} (w : Collaborators σ) (t : σ), (announced (x.run w t).calls).Sublist as

namespace Course.AnnouncesAmong

variable {α β : Type} {as bs : List Alert}

theorem done (a : α) : (Course.done a).AnnouncesAmong [] := ⟨fun _ _ => .slnil⟩

theorem ask {c : Call} {next : c.Answer → Course α}
    (h : ∀ answer, (next answer).AnnouncesAmong as) :
    (Course.ask c next).AnnouncesAmong (announced [c] ++ as) := by
  constructor
  intro σ w t
  rw [run]
  split
  · exact announced_append [c] _ ▸ (List.Sublist.refl _).append ((h _).sublist w _)
  · exact List.sublist_append_left _ _
  · exact List.nil_sublist _

/-- A question after which nothing more is asked. -/
theorem ask_done {c : Call} {next : c.Answer → Course α}
    (h : ∀ answer, ∃ a, next answer = .done a) :
    (Course.ask c next).AnnouncesAmong (announced [c]) := by
  have hnext : ∀ answer, (next answer).AnnouncesAmong [] := fun answer => by
    obtain ⟨a, e⟩ := h answer
    rw [e]
    exact done a
  exact List.append_nil (announced [c]) ▸ ask hnext

theorem bind {x : Course α} {k : α → Course β} (hx : x.AnnouncesAmong as)
    (hk : ∀ a, (k a).AnnouncesAmong bs) : (x >>= k).AnnouncesAmong (as ++ bs) := by
  constructor
  intro σ w t
  have hfirst := hx.sublist w t
  rw [run_bind]
  split
  · exact announced_append _ _ ▸ hfirst.append ((hk _).sublist w _)
  · exact hfirst.trans (List.sublist_append_left _ _)

theorem each {step : Progress → Alert → Course Progress} {f : Alert → List Alert}
    (h : ∀ p a, (step p a).AnnouncesAmong (f a)) (as : List Alert) (p : Progress) :
    (Pass.each step as p).AnnouncesAmong (as.flatMap f) := by
  induction as generalizing p with
  | nil => exact done p
  | cons a as ih => exact List.flatMap_cons ▸ (h p a).bind ih

end Course.AnnouncesAmong

namespace Pass

open Course (AnnouncesAmong)

theorem announcesAmong_update (p : Progress) (a : Alert) : (update p a).AnnouncesAmong [] :=
  AnnouncesAmong.ask_done (c := .upsert a) fun answer => by
    rcases answer with e | u <;> exact ⟨_, rfl⟩

theorem announcesAmong_create (p : Progress) (a : Alert) : (create p a).AnnouncesAmong [] :=
  AnnouncesAmong.ask_done (c := .upsert a) fun answer => by
    rcases answer with e | u <;> exact ⟨_, rfl⟩

theorem announcesAmong_retire (p : Progress) (a : Alert) : (retire p a).AnnouncesAmong [] :=
  AnnouncesAmong.ask_done (c := .markStale a.id) fun answer => by
    rcases answer with e | u <;> exact ⟨_, rfl⟩

theorem announcesAmong_mayAnnounce (window : Span) (now : Instant) (a : Alert) :
    (mayAnnounce window now a).AnnouncesAmong [] := by
  unfold mayAnnounce
  split
  · exact .done true
  · exact AnnouncesAmong.ask_done (c := .searchResolved a.key) fun answer => by
      rcases answer with e | records <;> exact ⟨_, rfl⟩

theorem announcesAmong_announce (window : Span) (now : Instant) (p : Progress) (a : Alert) :
    (announce window now p a).AnnouncesAmong [a] := by
  refine (announcesAmong_mayAnnounce window now a).bind fun permitted => ?_
  cases permitted with
  | false => exact ⟨fun _ _ => List.nil_sublist _⟩
  | true =>
    exact AnnouncesAmong.ask_done (c := .dispatch a) fun answer => by
      rcases answer with e | u <;> exact ⟨_, rfl⟩

theorem announcesAmong_recordNew (window : Span) (now : Instant) (p : Progress) (a : Alert) :
    (recordNew window now p a).AnnouncesAmong [a] :=
  (announcesAmong_announce window now p a).bind fun p => announcesAmong_create p a

theorem announcesAmong_carryOut (x : Pass) (plan : Plan) :
    (x.carryOut plan).AnnouncesAmong (identify x.freshId 0 plan.new) := by
  have hnothing : ∀ as : List Alert, as.flatMap (fun _ => ([] : List Alert)) = [] := fun as =>
    List.flatMap_eq_nil_iff.mpr fun _ _ => rfl
  have h := (AnnouncesAmong.each announcesAmong_update plan.updated
      (.start plan.unchanged.length)).bind fun p =>
    (AnnouncesAmong.each (announcesAmong_recordNew x.window x.now)
      (identify x.freshId 0 plan.new) p).bind fun p =>
    AnnouncesAmong.each announcesAmong_retire plan.stale p
  rwa [hnothing, hnothing, List.flatMap_singleton', List.append_nil, List.nil_append] at h

/-- **A pass announces no more than the alerts it is to create**, each once at most. -/
theorem sublist_announced_run {σ : Type} {w : Collaborators σ} {store : σ → Store}
    (hw : w.KeepByAnyClock store) (x : Pass) (t : σ) :
    (announced (x.run w t).calls).Sublist (x.created (store t)) := by
  obtain ⟨now, hattend⟩ := hw t (.search (.inScope x.filters))
  change (announced (Course.run w (.ask _ _) t).calls).Sublist _
  rw [Course.run]
  split <;> rename_i h <;> rw [h] at hattend
  · obtain ⟨_, rfl | ⟨error, rfl⟩⟩ := hattend.answered_search
    · have hcarry := (announcesAmong_carryOut x (x.plan (store t))).bind
        (k := fun p => Course.done p.finish) fun p => .done p.finish
      rw [List.append_nil] at hcarry
      exact hcarry.sublist w _
    · exact List.nil_sublist _
  · exact List.nil_sublist _
  · exact List.nil_sublist _

/-! ## 3. A finding on record -/

/-- A record of the finding is in scope, which includes that it is active. -/
def OnRecord (fs : List ScopeFilter) (k : Key) (s : Store) : Prop :=
  ∃ r ∈ s.records, (Query.inScope fs).isMatch r = true ∧ r.key = k

/-- A pass with given filters that detects a finding, in scope and active, over a batch of alerts
without ids. -/
structure Watches (fs : List ScopeFilter) (k : Key) (x : Pass) : Prop where
  filters_eq : x.filters = fs
  unnamed : x.Unnamed
  detected : ∃ a ∈ x.batch, a.key = k
  inScope : ∀ a ∈ x.batch, a.key = k → a.status = .active ∧ (Query.inScope fs).isMatch a = true

variable {x : Pass} {s s' : Store} {fs : List ScopeFilter} {k : Key} {a : Alert}

theorem Watches.exists_detection? (h : Watches fs k x) :
    ∃ d, Plan.detection? x.batch k = some d ∧ (Query.inScope fs).isMatch d = true := by
  obtain ⟨a, ha, hkey⟩ := h.detected
  have hstatus : a.status ≠ .attempted := by
    rw [(h.inScope a ha hkey).1]
    decide
  obtain ⟨d, hd⟩ := Plan.detection?_of_detects ⟨a, Plan.mem_findings.mpr ⟨ha, hstatus⟩, hkey⟩
  obtain ⟨b, hb, hkey', hbare⟩ := Plan.exists_of_detection? hd
  refine ⟨d, hd, ?_⟩
  rw [Alert.isMatch_eq_of_bare hbare]
  exact (h.inScope b (Plan.mem_findings.mp hb).1 hkey').2

/-- **A pass under way keeps a finding on record.** -/
theorem OnRecord.underway (h : OnRecord fs k s) (hx : Watches fs k x) (hway : x.Underway s s') :
    OnRecord fs k s' := by
  obtain ⟨c, hc, hq, rfl⟩ := h
  obtain ⟨r, hr, hkey⟩ := Store.exists_stands hc hq
  obtain ⟨d, hd, hqd⟩ := hx.exists_detection?
  obtain ⟨r', hget, hbecame⟩ := hway.old r hr.mem
  obtain rfl := hx.filters_eq
  refine ⟨r', Store.mem_of_get? hget, ?_, hbecame.key_eq.trans hkey⟩
  rcases hbecame with rfl | ⟨clock, rfl⟩
  · exact hr.isMatch
  · rw [afterwards_of_stands hr (hkey ▸ hd)]
    exact Alert.isMatch_settled hr.isMatch hqd

/-- What is created for a finding watched is in scope, and then the finding was not on record. -/
theorem Watches.of_mem_created (hx : Watches fs k x) (ha : a ∈ x.created s) (hkey : a.key = k) :
    (Query.inScope fs).isMatch a = true ∧ a.status ≠ .attempted ∧ ¬ OnRecord fs k s := by
  obtain ⟨d, hd, hq⟩ := hx.exists_detection?
  obtain ⟨b, hb, n, rfl⟩ := exists_of_mem_created hx.unnamed ha
  have hkey' : b.key = k := hkey
  rcases mem_new_plan_iff.mp hb with ⟨hmem, hattempted⟩ | ⟨hd', hnone⟩
  · rw [(hx.inScope b hmem hkey').1] at hattempted
    cases hattempted
  · rw [hkey', hd] at hd'
    obtain rfl := Option.some.inj hd'
    obtain rfl := hx.filters_eq
    have hstatus : d.status ≠ .attempted := Plan.status_of_detection? hd
    refine ⟨hq, hstatus, ?_⟩
    rintro ⟨c, hc, hqc, e⟩
    exact hnone c hc hqc (e.trans hkey'.symm)

/-- **While a finding is on record nothing is created for it.** -/
theorem OnRecord.key_ne_of_mem_created (h : OnRecord fs k s) (hx : Watches fs k x)
    (ha : a ∈ x.created s) : a.key ≠ k := fun hkey => (hx.of_mem_created ha hkey).2.2 h

/-- No two alerts are created for a finding watched. -/
theorem Watches.length_filter_created_le_one (hx : Watches fs k x) :
    ((x.created s).filter (·.key = k)).length ≤ 1 := by
  have hpair := (pairwise_key_created x s).filter (·.key = k)
  have hmem : ∀ a ∈ (x.created s).filter (·.key = k), a.status ≠ .attempted ∧ a.key = k := by
    intro a ha
    obtain ⟨ha, hkey⟩ := List.mem_filter.mp ha
    have hkey' : a.key = k := by simpa using hkey
    exact ⟨(hx.of_mem_created ha hkey').2.1, hkey'⟩
  generalize (x.created s).filter (·.key = k) = as at hpair hmem ⊢
  match as with
  | [] => exact Nat.zero_le 1
  | [_] => exact Nat.le_refl 1
  | a :: b :: _ =>
    have ha := hmem a List.mem_cons_self
    have hb := hmem b (List.mem_cons_of_mem a List.mem_cons_self)
    rcases (List.pairwise_cons.mp hpair).1 b List.mem_cons_self with hattempted | hne
    · exact absurd hattempted ha.1
    · exact absurd (ha.2.trans hb.2.symm) hne

/-- An alert created for a finding watched is the record of it, as soon as its id is in use. -/
theorem onRecord_of_get? (hx : Watches fs k x) (hf : x.DrawsFresh s) (hway : x.Underway s s')
    (ha : a ∈ x.created s) (hkey : a.key = k) {r : Alert} (hr : s'.get? a.id = some r) :
    OnRecord fs k s' := by
  have hid := Store.id_of_get? hr
  have hnone : s.get? r.id = none := hid ▸ get?_of_mem_created hx.unnamed hf ha
  have hcreated := hway.new r (Store.mem_of_get? hr) hnone
  obtain rfl := eq_of_id_eq_of_mem_created hx.unnamed hf hcreated ha hid
  exact ⟨r, Store.mem_of_get? hr, (hx.of_mem_created ha hkey).1, hkey⟩

end Pass

/-! ## 4. One attempt -/

namespace Attempt

open Pass (OnRecord Watches)

variable {y : Attempt} {s : Store} {fs : List ScopeFilter} {k : Key} {a : Alert}

/-- What an attempt announces is what it is to create, each once at most. -/
theorem sublist_handedOut (y : Attempt) (s : Store) :
    (handedOut (y.trace s)).Sublist (y.pass.created s) := by
  have h := Pass.sublist_announced_run y.keeps y.pass (y.opening s)
  rw [y.store_opening] at h
  rwa [handedOut, trace, map_call_trace]

/-- What an attempt writes is an update or a creation. -/
theorem mem_of_upsert {e : Exchange} (he : e ∈ y.trace s) (ha : e.call = .upsert a) :
    a ∈ (y.pass.plan s).updated ∨ a ∈ y.pass.created s := by
  rcases asks_of_mem_trace he with h | ⟨u, hu, h⟩ | ⟨b, hb, h | h | h⟩ | ⟨b, hb, h⟩ <;>
    rw [h] at ha <;> cases ha
  · exact .inl hu
  · exact .inr hb

/-- An id that is in use is so at the end of an attempt. -/
theorem exists_get?_leaves (hx : y.pass.Unnamed) (hf : y.pass.DrawsFresh s) {m : Store}
    (hm : m ∈ moments s (y.trace s)) {r : Alert} (hr : r ∈ m.records) :
    ∃ r', (y.leaves s).get? r.id = some r' := by
  have h := ((y.leads_trace s).pairwise
    (R := fun m m' => ∀ r ∈ m.records, ∃ r' ∈ m'.records, r'.id = r.id)
    (fun m r hr => ⟨r, hr, rfl⟩) (fun l m n hlm hmn r hr => ?_) fun e he r hr => ?_).2 m hm r hr
  · obtain ⟨r', hr', hid⟩ := h
    exact ⟨r', hid ▸ Store.get?_of_mem hr'⟩
  · obtain ⟨r', hr', hid⟩ := hlm r hr
    obtain ⟨r'', hr'', hid'⟩ := hmn r' hr'
    exact ⟨r'', hr'', hid'.trans hid⟩
  · obtain ⟨r', hget, _⟩ := exists_get?_after hx hf he hr
    exact ⟨r', Store.mem_of_get? hget, Store.id_of_get? hget⟩

/-- **Once an alert of a finding watched is written, the finding is on record.** -/
theorem onRecord_of_mem_written (hx : Watches fs k y.pass) (hf : y.pass.DrawsFresh s)
    (ha : a ∈ written (y.trace s)) (hkey : a.key = k) : OnRecord fs k (y.leaves s) := by
  have hway := (underway_of_mem_moments hx.unnamed hf).2
  obtain ⟨m, m', he⟩ := mem_written.mp ha
  rcases mem_of_upsert he rfl with hupdated | hcreated
  · -- the record written over was in scope already
    obtain ⟨r, d, hr, hd, hsucceed⟩ := Pass.mem_updated_plan_iff.mp hupdated
    refine OnRecord.underway ⟨r, hr.mem, hx.filters_eq ▸ hr.isMatch, ?_⟩ hx hway
    rw [← hkey, Alert.key_of_succeed hsucceed, Plan.key_of_detection? hd]
  · obtain ⟨now, hattend⟩ := attends_of_mem_trace y.keeps he
    have hget := hattend.get?_of_written rfl (Pass.id_of_mem_created hf hcreated)
    obtain ⟨r, hr⟩ := exists_get?_leaves hx.unnamed hf (Leads.after_mem s he)
      (Store.mem_of_get? hget)
    exact Pass.onRecord_of_get? hx hf hway hcreated hkey hr

/-- An id that is not in use and that an attempt does not draw is not in use after it. -/
theorem get?_leaves_of_none (hx : y.pass.Unnamed) (hf : y.pass.DrawsFresh s) {id : String}
    (hid : s.get? id = none) (hother : ∀ n, y.pass.freshId n ≠ id) :
    (y.leaves s).get? id = none := by
  cases hget : (y.leaves s).get? id with
  | none => rfl
  | some r =>
    have hrid := Store.id_of_get? hget
    have hcreated := (underway_of_mem_moments hx hf).2.new r (Store.mem_of_get? hget)
      (hrid.symm ▸ hid)
    obtain ⟨b, _, n, rfl⟩ := Pass.exists_of_mem_created hx hcreated
    exact absurd hrid (hother n)

/-- Nor does the attempt write it. -/
theorem id_ne_of_mem_written (hx : y.pass.Unnamed) {id : String} (hid : s.get? id = none)
    (hother : ∀ n, y.pass.freshId n ≠ id) (ha : a ∈ written (y.trace s)) : a.id ≠ id := by
  obtain ⟨m, m', he⟩ := mem_written.mp ha
  rcases mem_of_upsert he rfl with hupdated | hcreated
  · obtain ⟨r, hr⟩ := Pass.get?_of_mem_updated hupdated
    rintro rfl
    rw [hid] at hr
    cases hr
  · obtain ⟨c, _, n, rfl⟩ := Pass.exists_of_mem_created hx hcreated
    exact hother n

end Attempt

/-! ## 5. Series -/

open Pass (OnRecord Watches)

/-- The alerts of a finding that are handed to the notifier and written later. -/
def confirmed (k : Key) : List Exchange → List Alert
  | [] => []
  | e :: es =>
    (handedOut [e]).filter (fun a => a.key = k ∧ a ∈ written es) ++ confirmed k es

variable {s : Store} {y : Attempt} {ys : List Attempt} {fs : List ScopeFilter} {k : Key}

theorem sublist_confirmed_append (k : Key) (es ds : List Exchange) :
    (confirmed k (es ++ ds)).Sublist
      ((handedOut es).filter (·.key = k) ++ confirmed k ds) := by
  induction es with
  | nil => exact List.Sublist.refl _
  | cons e es ih =>
    rw [List.cons_append, confirmed, handedOut_cons e es, List.filter_append, List.append_assoc]
    refine List.Sublist.append (List.monotone_filter_right _ fun a ha => ?_) ih
    exact decide_eq_true (of_decide_eq_true ha).1

/-- What is not handed out is not confirmed. -/
theorem confirmed_eq_nil {es : List Exchange} (h : ∀ a ∈ handedOut es, a.key ≠ k) :
    confirmed k es = [] := by
  have hsub := sublist_confirmed_append k es []
  have hnone : (handedOut es).filter (·.key = k) = [] :=
    List.filter_eq_nil_iff.mpr fun a ha hkey => h a ha (of_decide_eq_true hkey)
  rw [List.append_nil, hnone] at hsub
  exact List.sublist_nil.mp hsub

/-- Where nothing that is handed out at first is ever written, only what comes later counts. -/
theorem confirmed_append_of_not_written {es ds : List Exchange}
    (h : ∀ a ∈ handedOut es, a.key = k → a ∉ written (es ++ ds)) :
    confirmed k (es ++ ds) = confirmed k ds := by
  induction es with
  | nil => rfl
  | cons e es ih =>
    rw [handedOut_cons] at h
    rw [List.cons_append, confirmed, ih fun a ha hkey hwritten =>
      h a (List.mem_append_right _ ha) hkey (mem_written_cons hwritten)]
    have hnil : (handedOut [e]).filter (fun a => a.key = k ∧ a ∈ written (es ++ ds)) = [] := by
      refine List.filter_eq_nil_iff.mpr fun a ha hboth => ?_
      obtain ⟨hkey, hwritten⟩ := of_decide_eq_true hboth
      exact h a (List.mem_append_left _ ha) hkey (mem_written_cons hwritten)
    rw [hnil, List.nil_append]

/-- **A finding on record is not announced by any turn.** -/
theorem key_ne_of_mem_handedOut (hs : OnRecord fs k s) (hw : ∀ y ∈ ys, Watches fs k y.pass)
    (hf : FreshIds s ys) {u : Turn} (hu : u ∈ turns s ys) {a : Alert}
    (ha : a ∈ handedOut u.trace) : a.key ≠ k := by
  induction ys generalizing s with
  | nil => cases hu
  | cons y ys ih =>
    have hy := hw y List.mem_cons_self
    rcases List.mem_cons.mp hu with rfl | hu
    · exact hs.key_ne_of_mem_created hy ((y.sublist_handedOut s).subset ha)
    · have hway := (Attempt.underway_of_mem_moments hy.unnamed (hf.unused y List.mem_cons_self)).2
      exact ih (hs.underway hy hway) (fun z hz => hw z (List.mem_cons_of_mem y hz))
        (hf.tail hy.unnamed) hu

theorem confirmed_history_eq_nil (hs : OnRecord fs k s) (hw : ∀ y ∈ ys, Watches fs k y.pass)
    (hf : FreshIds s ys) : confirmed k (history s ys) = [] := by
  refine confirmed_eq_nil fun a ha => ?_
  obtain ⟨e, he, hcall⟩ := List.mem_map.mp (mem_announced.mp ha)
  obtain ⟨u, hu, he⟩ := mem_history.mp he
  exact key_ne_of_mem_handedOut hs hw hf hu (mem_announced.mpr (List.mem_map.mpr ⟨e, he, hcall⟩))

/-- An id that is not in use and that nobody draws is never written. -/
theorem id_ne_of_mem_written_history (hx : ∀ y ∈ ys, y.pass.Unnamed) (hf : FreshIds s ys)
    {id : String} (hid : s.get? id = none) (hother : ∀ y ∈ ys, ∀ n, y.pass.freshId n ≠ id)
    {a : Alert} (ha : a ∈ written (history s ys)) : a.id ≠ id := by
  induction ys generalizing s with
  | nil => cases ha
  | cons y ys ih =>
    have hy := hx y List.mem_cons_self
    have hfy := hf.unused y List.mem_cons_self
    have hothery := hother y List.mem_cons_self
    rw [history_cons, written_append] at ha
    rcases List.mem_append.mp ha with ha | ha
    · exact Attempt.id_ne_of_mem_written hy hid hothery ha
    · exact ih (fun z hz => hx z (List.mem_cons_of_mem y hz)) (hf.tail hy)
        (Attempt.get?_leaves_of_none hy hfy hid hothery)
        (fun z hz => hother z (List.mem_cons_of_mem y hz)) ha

/-- **An alert that an attempt announces and that is written sooner or later is on record when the
attempt ends.** -/
theorem onRecord_of_mem_handedOut (hw : ∀ z ∈ y :: ys, Watches fs k z.pass)
    (hf : FreshIds s (y :: ys)) {a : Alert} (ha : a ∈ handedOut (y.trace s)) (hkey : a.key = k)
    (hwritten : a ∈ written (y.trace s ++ history (y.leaves s) ys)) :
    OnRecord fs k (y.leaves s) := by
  have hy := hw y List.mem_cons_self
  have hfy := hf.unused y List.mem_cons_self
  have hcreated : a ∈ y.pass.created s := (y.sublist_handedOut s).subset ha
  rw [written_append] at hwritten
  rcases List.mem_append.mp hwritten with hnow | hlater
  · exact Attempt.onRecord_of_mem_written hy hfy hnow hkey
  · cases hget : (y.leaves s).get? a.id with
    | some r =>
      have hway := (Attempt.underway_of_mem_moments hy.unnamed hfy).2
      exact Pass.onRecord_of_get? hy hfy hway hcreated hkey hget
    | none =>
      -- its id was drawn by this attempt, so by none of the later ones
      obtain ⟨b, _, n, rfl⟩ := Pass.exists_of_mem_created hy.unnamed hcreated
      have hother : ∀ z ∈ ys, ∀ m, z.pass.freshId m ≠ y.pass.freshId n := fun z hz m =>
        (List.pairwise_cons.mp hf.apart).1 z hz m n
      have hunnamed : ∀ z ∈ ys, z.pass.Unnamed := fun z hz =>
        (hw z (List.mem_cons_of_mem y hz)).unnamed
      exact absurd rfl
        (id_ne_of_mem_written_history hunnamed (hf.tail hy.unnamed) hget hother hlater)

/-- At most one announcement of a finding watched is confirmed. -/
theorem length_confirmed_history_le_one (hw : ∀ y ∈ ys, Watches fs k y.pass)
    (hf : FreshIds s ys) : (confirmed k (history s ys)).length ≤ 1 := by
  induction ys generalizing s with
  | nil => exact Nat.zero_le 1
  | cons y ys ih =>
    have hy := hw y List.mem_cons_self
    have hw' : ∀ z ∈ ys, Watches fs k z.pass := fun z hz => hw z (List.mem_cons_of_mem y hz)
    have hf' := hf.tail hy.unnamed
    rw [history_cons]
    by_cases h : ∃ a ∈ handedOut (y.trace s), a.key = k ∧
        a ∈ written (y.trace s ++ history (y.leaves s) ys)
    · obtain ⟨a, ha, hkey, hwritten⟩ := h
      have hs := onRecord_of_mem_handedOut hw hf ha hkey hwritten
      have hsub := sublist_confirmed_append k (y.trace s) (history (y.leaves s) ys)
      rw [confirmed_history_eq_nil hs hw' hf', List.append_nil] at hsub
      exact (hsub.trans ((y.sublist_handedOut s).filter _)).length_le.trans
        hy.length_filter_created_le_one
    · rw [confirmed_append_of_not_written fun a ha hkey hwritten => h ⟨a, ha, hkey, hwritten⟩]
      exact ih hw' hf'

/-- Once a turn has written an alert of a finding watched, no later turn announces the finding. -/
theorem pairwise_turns (hw : ∀ y ∈ ys, Watches fs k y.pass) (hf : FreshIds s ys) :
    (turns s ys).Pairwise fun u v =>
      (∃ a ∈ written u.trace, a.key = k) → ∀ a ∈ handedOut v.trace, a.key ≠ k := by
  induction ys generalizing s with
  | nil => exact List.Pairwise.nil
  | cons y ys ih =>
    have hy := hw y List.mem_cons_self
    have hw' : ∀ z ∈ ys, Watches fs k z.pass := fun z hz => hw z (List.mem_cons_of_mem y hz)
    have hf' := hf.tail hy.unnamed
    refine List.pairwise_cons.mpr ⟨fun v hv hwritten a ha => ?_, ih hw' hf'⟩
    obtain ⟨b, hb, hkey⟩ := hwritten
    have hs := Attempt.onRecord_of_mem_written hy (hf.unused y List.mem_cons_self) hb hkey
    exact key_ne_of_mem_handedOut hs hw' hf' hv ha

/-- **A finding that stays detected is announced once**: whatever fails, at most one announcement of
it is confirmed, and once an alert of it is written, or if it is on record at the beginning, no
later pass announces it. -/
theorem announced_once (k : Key) (fs : List ScopeFilter) (s : Store) (ys : List Attempt)
    (hw : ∀ y ∈ ys, Watches fs k y.pass) (hf : FreshIds s ys) :
    (confirmed k (history s ys)).length ≤ 1 ∧
    (turns s ys).Pairwise (fun u v =>
      (∃ a ∈ written u.trace, a.key = k) → ∀ a ∈ handedOut v.trace, a.key ≠ k) ∧
    (OnRecord fs k s → ∀ u ∈ turns s ys, ∀ a ∈ handedOut u.trace, a.key ≠ k) :=
  ⟨length_confirmed_history_le_one hw hf, pairwise_turns hw hf,
    fun hs _ hu _ ha => key_ne_of_mem_handedOut hs hw hf hu ha⟩

theorem watches_troubled : ∀ y ∈ troubled, Watches [] ⟨"net", "web"⟩ y.pass := by
  have hfilters : ∀ y ∈ troubled, y.pass.filters = [] := by
    simp [troubled, Pass.hourly, Attempt.disturbed]
  have hdetected : ∀ y ∈ troubled, ∃ a ∈ y.pass.batch, a.key = ⟨"net", "web"⟩ := by
    simp only [troubled, List.forall_mem_cons]
    decide
  have hinScope : ∀ y ∈ troubled, ∀ a ∈ y.pass.batch, a.key = ⟨"net", "web"⟩ →
      a.status = .active ∧ (Query.inScope []).isMatch a = true := by
    simp only [troubled, List.forall_mem_cons]
    decide
  exact fun y hy => ⟨hfilters y hy, unnamed_troubled y hy, hdetected y hy, hinScope y hy⟩

/-- Connections are announced by the first pass, which does not write them, once more by the second,
and no more after that. -/
theorem announced_once_troubled :
    ((confirmed ⟨"net", "web"⟩ (history Pass.twoRecords troubled)).length ≤ 1 ∧
    (turns Pass.twoRecords troubled).Pairwise (fun u v =>
      (∃ a ∈ written u.trace, a.key = ⟨"net", "web"⟩) →
        ∀ a ∈ handedOut v.trace, a.key ≠ ⟨"net", "web"⟩) ∧
    (OnRecord [] ⟨"net", "web"⟩ Pass.twoRecords → ∀ u ∈ turns Pass.twoRecords troubled,
      ∀ a ∈ handedOut u.trace, a.key ≠ ⟨"net", "web"⟩)) ∧
    (turns Pass.twoRecords troubled).map (fun u => (handedOut u.trace).map (·.id)) =
      [["v"], ["w"], [], []] ∧
    (confirmed ⟨"net", "web"⟩ (history Pass.twoRecords troubled)).map (·.id) = ["w"] :=
  ⟨announced_once ⟨"net", "web"⟩ [] Pass.twoRecords troubled watches_troubled freshIds_troubled,
    by cbv, by cbv⟩

end AlertLedger
