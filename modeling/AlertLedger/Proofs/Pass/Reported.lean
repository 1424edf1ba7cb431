import AlertLedger.Proofs.Pass.Series
import AlertLedger.Proofs.Pass.Success
import Mathlib.Data.Finset.Card

/-!
# What a report says

A pass counts what it does while it does it, in loops over three lists of its plan. Its report is
about the difference that it makes to the store all the same, whatever look-ups and announcements
have failed and whatever keys and ids the records share (`reports_of_verdict`).

The counters are followed step by step (`Adds`), as long as no write is refused; at the end they are
the lengths of the lists. The store at the end is the one after the whole plan, so a list is as long
as the difference is large: what is created has been under no id before, what is stale is active at
first and resolved at the end, and the keys that are updated or unchanged are those that are
detected and on record (`card_matched`).
-/

namespace AlertLedger

/-! ## 1. Keys detected and on record -/

namespace Plan

/-- The keys that the findings of a batch and some records have in common. -/
def matched (batch records : List Alert) : Finset Key :=
  ((findings batch).map (·.key)).toFinset ∩ (records.map (·.key)).toFinset

theorem mem_matched {batch records : List Alert} {k : Key} :
    k ∈ matched batch records ↔ Detects batch k ∧ ∃ r ∈ records, r.key = k := by
  simp [matched, Detects]

theorem isSome_standing? {records : List Alert} {k : Key} :
    (standing? records k).isSome = true ↔ ∃ r ∈ records, r.key = k := by
  simp [standing?]

/-- **What is updated or unchanged** are the keys detected and on record, each once. -/
theorem card_matched (batch records : List Alert) :
    (Plan.of batch records).updated.length + (Plan.of batch records).unchanged.length =
      (matched batch records).card := by
  let both := (keys (findings batch)).filter fun k => (standing? records k).isSome
  have hnodup : both.Nodup := (nodup_of_pairwise_lt (pairwise_keys _)).filter _
  have hboth : matched batch records = both.toFinset := by
    refine Finset.ext fun k => ?_
    rw [mem_matched, List.mem_toFinset, List.mem_filter, mem_keys_findings, isSome_standing?]
  have hupdated : both.filter (fun k => (updated? batch records k).isSome) =
      (Plan.of batch records).updated.map (·.key) := by
    rw [keys_updated, List.filter_filter]
    refine List.filter_congr fun k _ => ?_
    rw [Bool.and_eq_left_iff_imp]
    intro h
    obtain ⟨a, ha⟩ := Option.isSome_iff_exists.mp h
    obtain ⟨_, r, _, hr, _⟩ := updated?_eq_some_iff.mp ha
    rw [hr, Option.isSome_some]
  have hunchanged : both.filter (fun k => !(updated? batch records k).isSome) =
      (Plan.of batch records).unchanged := by
    show _ = (keys (findings batch)).filter (isUnchanged batch records)
    rw [List.filter_filter]
    refine List.filter_congr fun k hk => ?_
    obtain ⟨d, hd⟩ := detection?_of_detects (mem_keys_findings.mp hk)
    simp only [updated?, isUnchanged, fate?, hd, Option.map_some]
    cases standing? records k with
    | none => simp [Fate.of]
    | some r => cases h : Alert.succeed r d <;> simp [Fate.of, h]
  have hsplit :=
    (List.filter_append_perm (fun k => (updated? batch records k).isSome) both).length_eq
  rw [List.length_append, hupdated, hunchanged, List.length_map] at hsplit
  rw [hboth, List.toFinset_card_of_nodup hnodup, hsplit]

end Plan

/-! ## 2. The difference between two stores -/

namespace Store

theorem mem_ids_iff {s : Store} {id : String} :
    id ∈ s.records.map (·.id) ↔ ∃ a, s.get? id = some a := by
  simp [get?_eq_some_iff]

/-- The active records of a store that are resolved in another. -/
def newlyResolved (s s' : Store) : List Alert :=
  s.records.filter fun r => r.status = .active ∧ ∃ r' ∈ s'.get? r.id, r'.status = .resolved

theorem mem_newlyResolved {s s' : Store} {r : Alert} : r ∈ s.newlyResolved s' ↔
    r ∈ s.records ∧ r.status = .active ∧ ∃ r', s'.get? r.id = some r' ∧ r'.status = .resolved := by
  simp [newlyResolved]

theorem nodup_newlyResolved (s s' : Store) : (s.newlyResolved s').Nodup :=
  s.nodup_records.filter _

end Store

namespace Pass

variable {x : Pass} {p p' p'' : Progress} {a : Alert} {es fs : List Exchange}

/-! ## 3. Counting step by step -/

/-- What exchanges add to a report: how many records they created, updated and resolved, the keys
of all these, and an announcement for each that was made. -/
structure Adds (created updated resolved : Nat) (keys : List Key) (p : Progress)
    (es : List Exchange) (p' : Progress) : Prop where
  created : p'.report.created = p.report.created + created
  updated : p'.report.updated = p.report.updated + updated
  resolved : p'.report.resolved = p.report.resolved + resolved
  unchanged : p'.report.unchanged = p.report.unchanged
  modified : ∀ k, k ∈ p'.report.modified ↔ k ∈ p.report.modified ∨ k ∈ keys
  announced : p'.report.notified + p'.report.notifyFailures =
    p.report.notified + p.report.notifyFailures + (announced (es.map (·.call))).length

theorem mem_touch {r : Report} {k key : Key} :
    k ∈ (r.touch key).modified ↔ k ∈ r.modified ∨ k ∈ [key] := by
  rw [Report.touch, Ascending.mem_insert, List.mem_singleton, or_comm]

theorem Adds.append {c c' u u' r r' : Nat} {ks ks' : List Key} (h : Adds c u r ks p es p')
    (h' : Adds c' u' r' ks' p' fs p'') :
    Adds (c + c') (u + u') (r + r') (ks ++ ks') p (es ++ fs) p'' where
  created := by rw [h'.created, h.created, Nat.add_assoc]
  updated := by rw [h'.updated, h.updated, Nat.add_assoc]
  resolved := by rw [h'.resolved, h.resolved, Nat.add_assoc]
  unchanged := by rw [h'.unchanged, h.unchanged]
  modified k := by rw [h'.modified, h.modified, List.mem_append, or_assoc]
  announced := by
    rw [h'.announced, h.announced, List.map_append, announced_append, List.length_append,
      Nat.add_assoc]

section Steps

variable (hr : ∀ e ∈ es, e.refusal? = none)
include hr

theorem adds_update (h : (update p a).Goes es p') : Adds 0 1 0 [a.key] p es p' := by
  obtain ⟨e, rfl, hcall, rfl⟩ := goes_update h
  rw [hr e List.mem_cons_self]
  refine ⟨rfl, rfl, rfl, rfl, fun k => mem_touch, ?_⟩
  rw [List.map_singleton, hcall]
  rfl

theorem adds_create (h : (create p a).Goes es p') : Adds 1 0 0 [a.key] p es p' := by
  obtain ⟨e, rfl, hcall, rfl⟩ := goes_create h
  rw [hr e List.mem_cons_self]
  refine ⟨rfl, rfl, rfl, rfl, fun k => mem_touch, ?_⟩
  rw [List.map_singleton, hcall]
  rfl

theorem adds_retire (h : (retire p a).Goes es p') : Adds 0 0 1 [a.key] p es p' := by
  obtain ⟨e, rfl, hcall, rfl⟩ := goes_retire h
  rw [hr e List.mem_cons_self]
  refine ⟨rfl, rfl, rfl, rfl, fun k => mem_touch, ?_⟩
  rw [List.map_singleton, hcall]
  rfl

omit hr in
theorem adds_announce {window : Span} {clock : Instant}
    (h : (announce window clock p a).Goes es p') : Adds 0 0 0 [] p es p' := by
  obtain ⟨asked, hasked, hrest⟩ := goes_announce h
  have hnone : announced (asked.map (·.call)) = [] := by
    rw [hasked]
    split <;> rfl
  obtain ⟨rfl, _, rfl⟩ | ⟨told, rfl, _, htold, htells⟩ := hrest
  · refine ⟨rfl, rfl, rfl, rfl, by simp [Progress.suppress], ?_⟩
    rw [hnone]
    rfl
  · have hone : (announced ((asked ++ [told]).map (·.call))).length = 1 := by
      rw [List.map_append, announced_append, hnone, List.map_singleton, htold]
      rfl
    obtain rfl | rfl := htells
    · refine ⟨rfl, rfl, rfl, rfl, by simp [Progress.notify], ?_⟩
      rw [hone]
      exact Nat.add_right_comm _ _ _
    · refine ⟨rfl, rfl, rfl, rfl, by simp [Progress.missNotice], ?_⟩
      rw [hone]
      rfl

theorem adds_recordNew {window : Span} {clock : Instant}
    (h : (recordNew window clock p a).Goes es p') : Adds 1 0 0 [a.key] p es p' := by
  obtain ⟨asked, wrote, q, rfl, hannounce, hcreate⟩ := Course.exists_of_goes_bind h
  exact (adds_announce hannounce).append
    (adds_create (fun e he => hr e (List.mem_append_right _ he)) hcreate)

/-- A loop adds what each of its steps adds. -/
theorem adds_each {step : Progress → Alert → Course Progress} {c u r : Nat} {as : List Alert}
    (h : (each step as p).Goes es p')
    (hstep : ∀ p a es p', (∀ e ∈ es, e.refusal? = none) → (step p a).Goes es p' →
      Adds c u r [a.key] p es p') :
    Adds (c * as.length) (u * as.length) (r * as.length) (as.map (·.key)) p es p' := by
  induction as generalizing p es with
  | nil =>
    obtain ⟨rfl, rfl⟩ := h
    exact ⟨rfl, rfl, rfl, rfl, by simp, rfl⟩
  | cons a as ih =>
    obtain ⟨first, rest, q, rfl, hfirst, hrest⟩ := Course.exists_of_goes_bind h
    obtain ⟨hr₁, hr₂⟩ := List.forall_mem_append.mp hr
    have hadds := (hstep p a first q hr₁ hfirst).append (ih hr₂ hrest)
    rw [Nat.add_comm c, Nat.add_comm u, Nat.add_comm r] at hadds
    exact hadds

/-- **Carrying out a plan** adds the lengths of its lists and the keys of its records. -/
theorem adds_carryOut {plan : Plan} (h : (x.carryOut plan).Goes es p') :
    Adds (identify x.freshId 0 plan.new).length plan.updated.length plan.stale.length
      ((plan.updated ++ identify x.freshId 0 plan.new ++ plan.stale).map (·.key))
      (.start plan.unchanged.length) es p' := by
  obtain ⟨updates, rest, q, rfl, hupdates, hrest⟩ := Course.exists_of_goes_bind h
  obtain ⟨creations, retirements, q', rfl, hcreations, hretirements⟩ :=
    Course.exists_of_goes_bind hrest
  obtain ⟨hr₁, hr⟩ := List.forall_mem_append.mp hr
  obtain ⟨hr₂, hr₃⟩ := List.forall_mem_append.mp hr
  have h₁ := adds_each hr₁ hupdates fun _ _ _ _ => adds_update
  have h₂ := adds_each hr₂ hcreations fun _ _ _ _ hr => adds_recordNew hr
  have h₃ := adds_each hr₃ hretirements fun _ _ _ _ => adds_retire
  have hadds := h₁.append (h₂.append h₃)
  simpa only [Nat.zero_mul, Nat.one_mul, Nat.zero_add, Nat.add_zero, List.map_append,
    List.append_assoc] using hadds

end Steps

/-! ## 4. What a pass that succeeds has made of the store -/

section Difference

variable {s s' : Store} {calls : List Call} {report : Report}
  (h : x.Succeeds s s' calls report es p) (hx : x.Unnamed) (hf : x.DrawsFresh s)
include h hx hf

theorem Succeeds.exists_get?_of_mem {r : Alert} (hr : r ∈ s.records) :
    ∃ clock, s'.get? r.id = some (x.afterwards s clock r) := by
  obtain ⟨clock, rfl⟩ := h.exists_eq_fulfilled
  exact ⟨clock, get?_fulfilled_of_mem clock hx hf hr⟩

theorem Succeeds.get?_eq_some_iff_of_none {id : String} (hid : s.get? id = none) {a : Alert} :
    s'.get? id = some a ↔ a ∈ x.created s ∧ a.id = id := by
  obtain ⟨clock, rfl⟩ := h.exists_eq_fulfilled
  exact get?_fulfilled_of_none hx hf hid

theorem Succeeds.mem_of_mem_created {a : Alert} (ha : a ∈ x.created s) : a ∈ s'.records := by
  obtain ⟨clock, rfl⟩ := h.exists_eq_fulfilled
  exact (mem_fulfilled_iff hx hf).mpr (.inr ha)

theorem Succeeds.mem_of_mem_updated {u : Alert} (hu : u ∈ (x.plan s).updated) :
    u ∈ s'.records := by
  obtain ⟨clock, rfl⟩ := h.exists_eq_fulfilled
  obtain ⟨r, hr, _, _, hafter⟩ := afterwards_of_mem_updated clock hu
  exact (mem_fulfilled_iff hx hf).mpr (.inl ⟨r, hr, hafter⟩)

/-- **The ids at the end** are those from before and those of the alerts created. -/
theorem Succeeds.ids_perm : (s'.records.map (·.id)).Perm
    (s.records.map (·.id) ++ (x.created s).map (·.id)) := by
  have hnodup : (s.records.map (·.id) ++ (x.created s).map (·.id)).Nodup := by
    refine List.nodup_append.mpr ⟨s.nodup_ids, nodup_ids_created hx hf, ?_⟩
    intro id hold id' hnew heq
    obtain ⟨a, ha, rfl⟩ := List.mem_map.mp hnew
    subst heq
    obtain ⟨r, hr⟩ := Store.mem_ids_iff.mp hold
    rw [get?_of_mem_created hx hf ha] at hr
    cases hr
  refine (List.perm_ext_iff_of_nodup s'.nodup_ids hnodup).mpr fun id => ?_
  rw [List.mem_append, Store.mem_ids_iff, Store.mem_ids_iff]
  cases hid : s.get? id with
  | some r =>
    obtain ⟨clock, hget⟩ := h.exists_get?_of_mem hx hf (Store.mem_of_get? hid)
    rw [Store.id_of_get? hid] at hget
    simp [hget]
  | none =>
    simp [h.get?_eq_some_iff_of_none hx hf hid]

/-- **What was active and is resolved at the end** is what was stale. -/
theorem Succeeds.newlyResolved_perm : (s.newlyResolved s').Perm (x.plan s).stale := by
  refine (List.perm_ext_iff_of_nodup (s.nodup_newlyResolved s')
    (Plan.nodup_stale x.batch (s.nodup_select _))).mpr fun r => ?_
  rw [Store.mem_newlyResolved]
  constructor
  · intro hresolves
    obtain ⟨hr, hactive, r', hget, hresolved⟩ := hresolves
    obtain ⟨clock, hafter⟩ := h.exists_get?_of_mem hx hf hr
    obtain rfl : r' = x.afterwards s clock r := Option.some.inj (hget.symm.trans hafter)
    rcases afterwards_cases (x := x) clock hr with ⟨_, e⟩ | ⟨hstale, _⟩ | ⟨d, _, _, e⟩
    · rw [e, hactive] at hresolved
      cases hresolved
    · exact hstale
    · rw [e, Alert.status_settled, hactive] at hresolved
      cases hresolved
  · intro hstale
    obtain ⟨hr, hq, _⟩ := mem_stale_plan_iff.mp hstale
    obtain ⟨clock, hget⟩ := h.exists_get?_of_mem hx hf hr
    rw [afterwards_of_mem_stale hstale] at hget
    exact ⟨hr, Query.status_of_isMatch_inScope hq, _, hget, rfl⟩

/-- **A record that is another at the end** was written over or retired, or is new. -/
theorem Succeeds.exists_of_get?_ne {id : String} (hne : s'.get? id ≠ s.get? id) :
    ∃ a, s'.get? id = some a ∧ (∀ r, s.get? id = some r → r.key = a.key) ∧
      a.key ∈ ((x.plan s).updated ++ x.created s ++ (x.plan s).stale).map (·.key) := by
  cases hid : s.get? id with
  | none =>
    rw [hid] at hne
    obtain ⟨a, ha⟩ := Option.ne_none_iff_exists'.mp hne
    obtain ⟨hcreated, _⟩ := (h.get?_eq_some_iff_of_none hx hf hid).mp ha
    refine ⟨a, ha, by simp, List.mem_map_of_mem ?_⟩
    exact List.mem_append_left _ (List.mem_append_right _ hcreated)
  | some r =>
    have hr := Store.mem_of_get? hid
    obtain ⟨clock, hget⟩ := h.exists_get?_of_mem hx hf hr
    rw [Store.id_of_get? hid] at hget
    rw [hget, hid] at hne
    refine ⟨_, hget, fun q hq => ?_, ?_⟩
    · rw [← Option.some.inj hq, key_afterwards]
    · rw [key_afterwards]
      by_cases hstale : r ∈ (x.plan s).stale
      · exact List.mem_map_of_mem (List.mem_append_right _ hstale)
      · have hupdated : ∃ u ∈ (x.plan s).updated, u.id = r.id := by
          refine Classical.byContradiction fun hnone => hne (congrArg some ?_)
          exact afterwards_of_untouched hr (fun u hu e => hnone ⟨u, hu, e⟩) hstale
        obtain ⟨u, hu, hid'⟩ := hupdated
        obtain ⟨q, hq, hqu, _, hafter⟩ := afterwards_of_mem_updated clock hu
        obtain rfl : q = r := Store.eq_of_id_eq hq hr (hqu.trans hid')
        rw [← key_afterwards x s clock, hafter]
        exact List.mem_map_of_mem (List.mem_append_left _ (List.mem_append_left _ hu))

/-- **What is in a plan** is in the store at the end, and was written or retired on the way. -/
theorem Succeeds.exists_of_mem_keys {k : Key}
    (hk : k ∈ ((x.plan s).updated ++ x.created s ++ (x.plan s).stale).map (·.key)) :
    ∃ a ∈ s'.records, a.key = k ∧ (.upsert a ∈ calls ∨ .markStale a.id ∈ calls) := by
  obtain ⟨b, hb, rfl⟩ := List.mem_map.mp hk
  have hcarried := carriesOut_of_goes h.goes
  rcases List.mem_append.mp hb with hb | hb
  · have hcall : .upsert b ∈ calls := by
      rw [h.calls]
      refine List.mem_cons_of_mem _ (mem_upserts.mp ?_)
      rw [upserts_of_carriesOut hcarried]
      exact hb
    rcases List.mem_append.mp hb with hb | hb
    · exact ⟨b, h.mem_of_mem_updated hx hf hb, rfl, .inl hcall⟩
    · exact ⟨b, h.mem_of_mem_created hx hf hb, rfl, .inl hcall⟩
  · obtain ⟨clock, hget⟩ := h.exists_get?_of_mem hx hf (mem_stale_plan_iff.mp hb).1
    refine ⟨_, Store.mem_of_get? hget, key_afterwards x s clock b, .inr ?_⟩
    obtain ⟨updates, introductions, retirements, rfl, _, _, hretirements⟩ := hcarried
    rw [id_afterwards, h.calls, List.map_append, hretirements]
    exact List.mem_cons_of_mem _ (List.mem_append_right _ (List.mem_map_of_mem hb))

end Difference

/-! ## 5. The report -/

/-- What the report of a pass says of the stores before and after it, and of its calls. -/
structure Reports (x : Pass) (s s' : Store) (calls : List Call) (report : Report) : Prop where
  created : s'.size = s.size + report.created
  resolved : (s.newlyResolved s').length = report.resolved
  /-- A record that is another at the end, or new, has a key that is modified. -/
  changed : ∀ id, s'.get? id ≠ s.get? id → ∃ a, s'.get? id = some a ∧
    (∀ r, s.get? id = some r → r.key = a.key) ∧ a.key ∈ report.modified
  /-- A key that is modified is that of a record that was written or retired. -/
  modified : ∀ k ∈ report.modified, ∃ a ∈ s'.records, a.key = k ∧
    (.upsert a ∈ calls ∨ .markStale a.id ∈ calls)
  /-- Each alert created was announced, held back, or missed by the notifier. -/
  accounted : report.notified + report.suppressed + report.notifyFailures = report.created
  dispatched : report.notified + report.notifyFailures = (announced calls).length
  matched : report.updated + report.unchanged =
    (Plan.matched x.batch (s.select (.inScope x.filters))).card
  /-- A pass with nothing to report has done nothing. -/
  idle : report.isEmpty = true → s' = s ∧ announced calls = []

theorem Succeeds.reports {s s' : Store} {calls : List Call} {report : Report}
    (h : x.Succeeds s s' calls report es p) (hx : x.Unnamed) (hf : x.DrawsFresh s) :
    x.Reports s s' calls report := by
  have hadds := adds_carryOut h.unrefused h.goes
  have htallies : p.report.suppressed + (announced (es.map (·.call))).length =
      (Progress.start (x.plan s).unchanged.length).report.suppressed + (x.created s).length :=
    tallies_carryOut h.goes
  have hmodified : ∀ k, k ∈ report.modified ↔
      k ∈ ((x.plan s).updated ++ x.created s ++ (x.plan s).stale).map (·.key) := by
    intro k
    rw [← h.noted, hadds.modified]
    exact or_iff_right List.not_mem_nil
  have hcreated : report.created = (x.created s).length := by
    rw [← h.noted, hadds.created]
    exact Nat.zero_add _
  have hdispatched : report.notified + report.notifyFailures = (announced calls).length := by
    rw [← h.noted, hadds.announced, h.calls]
    exact Nat.zero_add _
  have haccounted : report.notified + report.suppressed + report.notifyFailures =
      report.created := by
    rw [hcreated, Nat.add_right_comm, hdispatched, h.calls, ← h.noted, Nat.add_comm]
    exact htallies.trans (Nat.zero_add _)
  have hchanged : ∀ id, s'.get? id ≠ s.get? id → ∃ a, s'.get? id = some a ∧
      (∀ r, s.get? id = some r → r.key = a.key) ∧ a.key ∈ report.modified := by
    intro id hne
    obtain ⟨a, ha, hkey, hmem⟩ := h.exists_of_get?_ne hx hf hne
    exact ⟨a, ha, hkey, (hmodified a.key).mpr hmem⟩
  refine ⟨?_, ?_, hchanged, ?_, haccounted, hdispatched, ?_, ?_⟩
  · have hlength := (h.ids_perm hx hf).length_eq
    rw [List.length_append, List.length_map, List.length_map, List.length_map] at hlength
    rw [hcreated]
    exact hlength
  · rw [(h.newlyResolved_perm hx hf).length_eq, ← h.noted, hadds.resolved]
    exact (Nat.zero_add _).symm
  · exact fun k hk => h.exists_of_mem_keys hx hf ((hmodified k).mp hk)
  · rw [← h.noted, hadds.updated, hadds.unchanged, ← Plan.card_matched]
    exact congrArg (· + _) (Nat.zero_add _)
  · intro hempty
    have hnil : report.modified = [] := by simpa [Report.isEmpty] using hempty
    have hnone : (x.created s).length = 0 := by
      refine List.length_eq_zero_iff.mpr (List.eq_nil_iff_forall_not_mem.mpr fun a ha => ?_)
      have hkey : a.key ∈ report.modified := (hmodified a.key).mpr
        (List.mem_map_of_mem (List.mem_append_left _ (List.mem_append_right _ ha)))
      rw [hnil] at hkey
      cases hkey
    constructor
    · refine Store.eq_of_get?_eq h.denied_eq fun id => Classical.byContradiction fun hne => ?_
      obtain ⟨a, _, _, hmem⟩ := hchanged id hne
      rw [hnil] at hmem
      cases hmem
    · exact List.length_eq_zero_iff.mp (by omega)

/-- **A report accounts for the change of the store**, whatever look-ups and announcements have
failed. -/
theorem reports_of_verdict {σ : Type} {w : Collaborators σ} {store : σ → Store} {t : σ}
    {report : Report} (hw : w.KeepByAnyClock store) (hx : x.Unnamed)
    (hf : x.DrawsFresh (store t)) (h : verdict (x.run w t) = .ok report) :
    x.Reports (store t) (store (x.run w t).final) (x.run w t).calls report := by
  obtain ⟨es, p, hsucceeds⟩ := succeeds_of_verdict hw h
  exact hsucceeds.reports hx hf

/-- Collaborators who fail to look up and to announce anything. -/
def deaf : Collaborators Store :=
  .disturbed (.hour 4) (fun _ => false) fun c => c.kind = .searchResolved ∨ c.kind = .dispatch

/-- Three records are changed: one written over, one created without notice, one retired. -/
theorem reports_deaf :
    let x : Pass := hourly 'x' 4 mixed.batch
    let r := x.run deaf twoRecords
    verdict r = .ok ⟨[⟨"net", "web"⟩, ⟨"root", "web"⟩, ⟨"shell", "web"⟩], 1, 1, 1, 0, 0, 0, 1⟩ ∧
      x.Reports twoRecords r.final r.calls
        ⟨[⟨"net", "web"⟩, ⟨"root", "web"⟩, ⟨"shell", "web"⟩], 1, 1, 1, 0, 0, 0, 1⟩ := by
  intro x r
  have hverdict : verdict r =
      .ok ⟨[⟨"net", "web"⟩, ⟨"root", "web"⟩, ⟨"shell", "web"⟩], 1, 1, 1, 0, 0, 0, 1⟩ := by cbv
  have hkeep : deaf.KeepByAnyClock id := (disturbed_keep _ _ _).byAnyClock
  have hx : x.Unnamed := by
    intro a ha
    simp only [x, hourly, mixed, List.mem_cons, List.not_mem_nil, or_false] at ha
    obtain rfl | rfl := ha <;> rfl
  have hf : x.DrawsFresh twoRecords := drawsFresh_of_tally rfl (by decide)
  exact ⟨hverdict, reports_of_verdict hkeep hx hf hverdict⟩

end Pass

end AlertLedger
