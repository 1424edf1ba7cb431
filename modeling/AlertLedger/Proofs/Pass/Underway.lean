import AlertLedger.Proofs.Pass.PostState

/-!
# A pass under way

At every moment of a pass the store is on the way from what the pass found to what it would make of
it (`Underway`): each record is as it was or as it is afterwards (`Became`), and what is new was to
be created. No clock is fixed here; a record that is retired is retired by some clock. Everything
follows from what one call of the plan does to one record (`exists_get?_effect`): nothing, or, if
the record is as the pass found it, what the pass means for it.

The moments of a pass are those of its trace, whose exchanges are the search and the calls of the
plan:

* `underway_of_mem_moments`: the store is under way at every moment and at the end, whatever fails
  and wherever the pass ends;
* `exists_get?_after`: what an exchange of a pass does to a record.
-/

namespace AlertLedger.Pass

variable {x : Pass} {s s' : Store}

/-! ## 1. On the way -/

/-- What has become of a record on the way: it is as it was, or as it is afterwards by some
clock. -/
def Became (x : Pass) (s : Store) (r r' : Alert) : Prop :=
  r' = r ∨ ∃ clock, r' = x.afterwards s clock r

namespace Became

variable {r r' : Alert}

theorem id_eq (h : x.Became s r r') : r'.id = r.id := by
  rcases h with rfl | ⟨clock, rfl⟩
  · rfl
  · exact id_afterwards x s clock r

theorem key_eq (h : x.Became s r r') : r'.key = r.key := by
  rcases h with rfl | ⟨clock, rfl⟩
  · rfl
  · exact key_afterwards x s clock r

theorem time_eq (h : x.Became s r r') : r'.time = r.time := by
  rcases h with rfl | ⟨clock, rfl⟩
  · rfl
  · exact time_afterwards x s clock r

/-- A record that is in scope on the way was in scope before. -/
theorem isMatch_of_isMatch (h : x.Became s r r')
    (hq : (Query.inScope x.filters).isMatch r' = true) :
    (Query.inScope x.filters).isMatch r = true := by
  rcases h with rfl | ⟨clock, rfl⟩
  · exact hq
  · refine Classical.byContradiction fun hne => hne ?_
    rwa [afterwards_of_not_isMatch (by simpa using hne)] at hq

end Became

/-- The store `s'` lies on the way from `s` to what the pass makes of it. -/
structure Underway (x : Pass) (s s' : Store) : Prop where
  denied : s'.denied = s.denied
  old : ∀ r ∈ s.records, ∃ r', s'.get? r.id = some r' ∧ x.Became s r r'
  new : ∀ a ∈ s'.records, s.get? a.id = none → a ∈ x.created s

theorem underway_refl (x : Pass) (s : Store) : x.Underway s s where
  denied := rfl
  old r hr := ⟨r, Store.get?_of_mem hr, .inl rfl⟩
  new a ha h := by
    rw [Store.get?_of_mem ha] at h
    cases h

namespace Underway

/-- A record on the way under an id that was in use has become of the record from before. -/
theorem became (h : x.Underway s s') {r r' : Alert} (hr : r ∈ s.records)
    (hr' : r' ∈ s'.records) (hid : r.id = r'.id) : x.Became s r r' := by
  obtain ⟨r'', hget, hbecame⟩ := h.old r hr
  rw [hid, Store.get?_of_mem hr'] at hget
  obtain rfl := Option.some.inj hget
  exact hbecame

/-- A record on the way has become of one from before, or is created. -/
theorem exists_of_mem (h : x.Underway s s') {c' : Alert} (hc' : c' ∈ s'.records) :
    (∃ c ∈ s.records, x.Became s c c') ∨ c' ∈ x.created s := by
  cases hget : s.get? c'.id with
  | none => exact .inr (h.new c' hc' hget)
  | some c =>
    have hc := Store.mem_of_get? hget
    exact .inl ⟨c, hc, h.became hc hc' (Store.id_of_get? hget)⟩

end Underway

/-! ## 2. One call of the plan -/

section Call

variable (hx : x.Unnamed) (hf : x.DrawsFresh s) (h : x.Underway s s')
include hx hf h

/-- **What a call of the plan does to a record**: nothing, or, if the record is as the pass found
it, what the pass means for it. -/
theorem exists_get?_effect {c : Call} (hc : Plan.Asks (x.plan s) (x.created s) c) (now : Instant)
    {r : Alert} (hr : r ∈ s'.records) :
    ∃ r', (s'.effect now c).get? r.id = some r' ∧
      (r' = r ∨ r ∈ s.records ∧ r' = x.afterwards s (fun _ => now) r) := by
  have hget : s'.get? r.id = some r := Store.get?_of_mem hr
  rcases hc with ⟨u, hu, rfl⟩ | ⟨a, ha, rfl | rfl | rfl⟩ | ⟨b, hb, rfl⟩
  · show ∃ r', (s'.add u).get? r.id = some r' ∧ _
    rw [Store.get?_add s' (id_of_mem_updated hu), hget]
    split <;> rename_i hid
    · -- written over: the record stood for its finding, and settles unless it has settled already
      obtain ⟨q, d, hq, hd, hsucceed⟩ := mem_updated_plan_iff.mp hu
      have hsettled : q.settled d = u := Alert.settled_of_succeed hsucceed
      have hqid : q.id = r.id := by rw [hid, ← hsettled, Alert.id_settled]
      have hafter : ∀ clock, x.afterwards s clock q = u := fun clock =>
        (afterwards_of_stands hq hd).trans hsettled
      obtain rfl | ⟨clock, rfl⟩ := h.became hq.mem hr hqid
      · exact ⟨u, rfl, .inr ⟨hq.mem, (hafter _).symm⟩⟩
      · exact ⟨u, rfl, .inl (hafter clock).symm⟩
    · exact ⟨r, rfl, .inl rfl⟩
  · exact ⟨r, hget, .inl rfl⟩
  · exact ⟨r, hget, .inl rfl⟩
  · show ∃ r', (s'.add a).get? r.id = some r' ∧ _
    rw [Store.get?_add s' (id_of_mem_created hf ha), hget]
    split <;> rename_i hid
    · -- created: under a drawn id there is only the alert created
      have hnone : s.get? r.id = none := hid ▸ get?_of_mem_created hx hf ha
      have hra : r = a := eq_of_id_eq_of_mem_created hx hf (h.new r hr hnone) ha hid
      exact ⟨a, rfl, .inl hra.symm⟩
    · exact ⟨r, rfl, .inl rfl⟩
  · show ∃ r', (s'.retire now b.id).get? r.id = some r' ∧ _
    rw [Store.get?_retire, hget]
    split <;> rename_i hid
    · -- retired: the record was active, and stays as it is if it is resolved already
      obtain ⟨hmem, hq, _⟩ := mem_stale_plan_iff.mp hb
      have hactive : b.status ≠ .resolved := by
        rw [Query.status_of_isMatch_inScope hq]
        decide
      obtain rfl | ⟨clock, rfl⟩ := h.became hmem hr hid.symm
      · refine ⟨_, rfl, .inr ⟨hmem, ?_⟩⟩
        rw [Store.retired_of_not_resolved hactive, afterwards_of_mem_stale hb]
      · refine ⟨_, rfl, .inl (Store.retired_of_resolved ?_)⟩
        rw [afterwards_of_mem_stale hb]
        rfl
    · exact ⟨r, rfl, .inl rfl⟩

omit hx in
/-- What a call of the plan leaves under an id that was not in use was to be created. -/
theorem mem_created_of_mem_effect {c : Call} (hc : Plan.Asks (x.plan s) (x.created s) c)
    {now : Instant} {a : Alert} (ha : a ∈ (s'.effect now c).records)
    (hnone : s.get? a.id = none) : a ∈ x.created s := by
  have hget : (s'.effect now c).get? a.id = some a := Store.get?_of_mem ha
  have hold : s'.get? a.id = some a → a ∈ x.created s := fun h' =>
    h.new a (Store.mem_of_get? h') hnone
  rcases hc with ⟨u, hu, rfl⟩ | ⟨b, hb, rfl | rfl | rfl⟩ | ⟨b, hb, rfl⟩
  · change (s'.add u).get? a.id = some a at hget
    rw [Store.get?_add s' (id_of_mem_updated hu)] at hget
    split at hget <;> rename_i hid
    · obtain ⟨r, hr⟩ := get?_of_mem_updated hu
      rw [← hid, hnone] at hr
      cases hr
    · exact hold hget
  · exact hold hget
  · exact hold hget
  · change (s'.add b).get? a.id = some a at hget
    rw [Store.get?_add s' (id_of_mem_created hf hb)] at hget
    split at hget
    · exact Option.some.inj hget ▸ hb
    · exact hold hget
  · change (s'.retire now b.id).get? a.id = some a at hget
    rw [Store.get?_retire] at hget
    split at hget <;> rename_i hid
    · rw [hid, Store.get?_of_mem (mem_stale_plan_iff.mp hb).1] at hnone
      cases hnone
    · exact hold hget

/-- A call of the plan leaves the store under way. -/
theorem underway_effect {c : Call} (hc : Plan.Asks (x.plan s) (x.created s) c) (now : Instant) :
    x.Underway s (s'.effect now c) where
  denied := (Store.denied_effect now s' c).trans h.denied
  old r hr := by
    obtain ⟨r', hget, hbecame⟩ := h.old r hr
    have hr' := Store.mem_of_get? hget
    obtain ⟨r'', hget', hr''⟩ := exists_get?_effect hx hf h hc now hr'
    rw [Store.id_of_get? hget] at hget'
    refine ⟨r'', hget', ?_⟩
    rcases hr'' with rfl | ⟨hmem, e⟩
    · exact hbecame
    · obtain rfl : r' = r := Store.eq_of_id_eq hmem hr (Store.id_of_get? hget)
      exact .inr ⟨_, e⟩
  new _ ha hnone := mem_created_of_mem_effect hf h hc ha hnone

end Call

/-! ## 3. The trace of a pass -/

section Trace

variable {σ : Type} {w : Collaborators σ} {store : σ → Store} {t : σ}

/-- What an exchange of a pass leaves is what it found, or the effect of a call of the plan. -/
theorem after_eq_of_mem_trace (hw : w.KeepByAnyClock store) {e : Exchange}
    (he : e ∈ x.course.trace w store t) :
    e.after = e.before ∨ Plan.Asks (x.plan (store t)) (x.created (store t)) e.call ∧
      ∃ now, e.after = e.before.effect now e.call := by
  obtain ⟨now, hattend⟩ := attends_of_mem_trace hw he
  rcases hattend.store_eq with hsame | heffect
  · exact .inl hsame
  · rcases asks_of_mem_trace hw he with hsearch | hasks
    · refine .inl (heffect.trans (Store.effect_of_reads ?_))
      rw [hsearch]
      rfl
    · exact .inr ⟨hasks, now, heffect⟩

variable (hw : w.KeepByAnyClock store) (hx : x.Unnamed) (hf : x.DrawsFresh (store t))
include hw hx hf

/-- **A pass is under way at every moment and at its end**, whatever fails. -/
theorem underway_of_mem_moments :
    (∀ m ∈ moments (store t) (x.course.trace w store t), x.Underway (store t) m) ∧
      x.Underway (store t) (store (x.run w t).final) := by
  refine (leads_trace hw x.course t).invariant (underway_refl x (store t)) fun e he h => ?_
  rcases after_eq_of_mem_trace hw he with hsame | ⟨hasks, now, heffect⟩
  · rwa [hsame]
  · rw [heffect]
    exact underway_effect hx hf h hasks now

/-- **What an exchange of a pass does to a record**: nothing, or, if the record is as the pass
found it, what the pass means for it. -/
theorem exists_get?_after {e : Exchange} (he : e ∈ x.course.trace w store t) {r : Alert}
    (hr : r ∈ e.before.records) :
    ∃ r', e.after.get? r.id = some r' ∧
      (r' = r ∨ r ∈ (store t).records ∧ ∃ clock, r' = x.afterwards (store t) clock r) := by
  rcases after_eq_of_mem_trace hw he with hsame | ⟨hasks, now, heffect⟩
  · rw [hsame]
    exact ⟨r, Store.get?_of_mem hr, .inl rfl⟩
  · have hbefore := (leads_trace hw x.course t).before_mem he
    have hunder := (underway_of_mem_moments hw hx hf).1 e.before hbefore
    obtain ⟨r', hget, hr'⟩ := exists_get?_effect hx hf hunder hasks now hr
    rw [heffect]
    exact ⟨r', hget, hr'.imp_right (.imp_right fun e => ⟨_, e⟩)⟩

end Trace

end AlertLedger.Pass
