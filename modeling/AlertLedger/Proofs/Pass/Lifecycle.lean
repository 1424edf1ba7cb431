import AlertLedger.Proofs.Alert.Carried
import AlertLedger.Proofs.Pass.Series

/-!
# The life of a record

What may become of a record in a series of passes, whatever they detect, whatever their scope is
and whatever goes wrong in them (`lifecycle_history`): it never disappears, it keeps its id, its
finding and the time of its first observation, and its state changes at most once, from active to
resolved; and a pass leaves alone what is not in its scope. While a record is at runtime it loses
no evidence either (`evidence_history`).

Both are said of any two moments of a series, those within a pass included. They come from what one
exchange does to one record (`Attempt.exists_get?_after`), and so from what a pass makes of a record
(`livesOnAs_afterwards`, `carriedBy_afterwards`).
-/

namespace AlertLedger

/-! ## 1. What a pass makes of a record -/

namespace Alert

/-- What may become of a record: it keeps its identity, and its state stays or goes from active to
resolved. -/
structure LivesOnAs (r r' : Alert) : Prop where
  id : r'.id = r.id
  policy : r'.policy.id = r.policy.id
  entity : r'.entity.id = r.entity.id
  time : r'.time = r.time
  status : r'.status = r.status ∨ r.status = .active ∧ r'.status = .resolved

theorem LivesOnAs.refl (r : Alert) : r.LivesOnAs r := ⟨rfl, rfl, rfl, rfl, .inl rfl⟩

theorem LivesOnAs.trans {q r t : Alert} (h : q.LivesOnAs r) (h' : r.LivesOnAs t) :
    q.LivesOnAs t where
  id := h'.id.trans h.id
  policy := h'.policy.trans h.policy
  entity := h'.entity.trans h.entity
  time := h'.time.trans h.time
  status := by
    rcases h'.status with e' | ⟨hactive, hresolved⟩
    · rw [e']
      exact h.status
    · rcases h.status with e | ⟨_, e⟩
      · exact .inr ⟨e ▸ hactive, hresolved⟩
      · rw [e] at hactive
        cases hactive

/-- **A record that is at runtime before and after a detection loses no evidence by it.** -/
theorem carriedBy_settled {stored detected : Alert} (h : stored.stage = .runtime)
    (h' : (settled stored detected).stage = .runtime) :
    stored.CarriedBy (settled stored detected) := by
  cases hb : bothRuntime stored detected with
  | false =>
    -- replaced as a whole by a detection that is not at runtime
    rw [settled_of_not_bothRuntime hb] at h'
    have hboth : bothRuntime stored detected = true := bothRuntime_iff.mpr ⟨h, h'⟩
    rw [hboth] at hb
    cases hb
  | true =>
    have hjoined : stored.CarriedBy (absorb stored detected) :=
      ⟨fun _ hv => mem_violations_absorb.mpr (.inr ⟨hb, hv⟩),
        fun _ hp => mem_processes_absorb.mpr (.inr ⟨hb, hp⟩)⟩
    exact hjoined.trans (sameEvidence_iff.mp (settled_sameEvidence_absorb stored detected)).2

end Alert

namespace Pass

variable {x : Pass} {s : Store} {r : Alert}

theorem livesOnAs_afterwards (clock : Call → Instant) (hr : r ∈ s.records) :
    r.LivesOnAs (x.afterwards s clock r) where
  id := id_afterwards x s clock r
  policy := congrArg Key.policy (key_afterwards x s clock r)
  entity := congrArg Key.entity (key_afterwards x s clock r)
  time := time_afterwards x s clock r
  status := by
    rcases afterwards_cases (x := x) clock hr with ⟨_, e⟩ | ⟨hstale, e⟩ | ⟨d, _, _, e⟩
    · exact .inl (congrArg Alert.status e)
    · have hactive := Query.status_of_isMatch_inScope (mem_stale_plan_iff.mp hstale).2.1
      exact .inr ⟨hactive, congrArg Alert.status e⟩
    · rw [e, Alert.status_settled]
      exact .inl rfl

theorem carriedBy_afterwards {clock : Call → Instant} (h : r.stage = .runtime)
    (h' : (x.afterwards s clock r).stage = .runtime) : r.CarriedBy (x.afterwards s clock r) := by
  rcases afterwards_eq x s clock r with e | e | ⟨d, _, e⟩ <;> rw [e] at h' ⊢
  · exact .refl r
  · exact ⟨List.Subset.refl _, List.Subset.refl _⟩
  · exact Alert.carriedBy_settled h h'

end Pass

/-! ## 2. Series -/

section Series

variable {s : Store} {ys : List Attempt} (hx : ∀ y ∈ ys, y.pass.Unnamed) (hf : FreshIds s ys)
include hx hf

/-- What an exchange of a turn does to a record. -/
theorem Turn.exists_mem_after {u : Turn} (hu : u ∈ turns s ys) {e : Exchange} (he : e ∈ u.trace)
    {r : Alert} (hr : r ∈ e.before.records) :
    ∃ r' ∈ e.after.records, r'.id = r.id ∧
      (r' = r ∨ r ∈ u.found.records ∧ ∃ clock, r' = u.pass.afterwards u.found clock r) := by
  have hunnamed : u.pass.Unnamed := hx u.attempt (attempt_mem_of_mem_turns hu)
  obtain ⟨r', hget, hr'⟩ :=
    Attempt.exists_get?_after hunnamed (hf.drawsFresh_of_mem_turns hx hu) he hr
  exact ⟨r', Store.mem_of_get? hget, Store.id_of_get? hget, hr'⟩

end Series

/-- **Records live on through a series of passes**, whatever fails and wherever passes end, and a
pass leaves alone what is not active or not in its scope. -/
theorem lifecycle_history (s : Store) (ys : List Attempt) (hx : ∀ y ∈ ys, y.pass.Unnamed)
    (hf : FreshIds s ys) :
    (moments s (history s ys)).Pairwise (fun m m' =>
      ∀ r ∈ m.records, ∃ r' ∈ m'.records, r.LivesOnAs r') ∧
    ∀ u ∈ turns s ys, ∀ r ∈ u.found.records,
      r.status ≠ .active ∨ (Query.inScope u.pass.filters).isMatch r = false →
        ∀ m ∈ moments u.found u.trace, r ∈ m.records := by
  constructor
  · refine ((leads_history s ys).pairwise (fun m r hr => ⟨r, hr, .refl r⟩) ?_ ?_).1
    · intro l m n hlm hmn r hr
      obtain ⟨r', hr', h⟩ := hlm r hr
      obtain ⟨r'', hr'', h'⟩ := hmn r' hr'
      exact ⟨r'', hr'', h.trans h'⟩
    · intro e he r hr
      obtain ⟨u, hu, he⟩ := mem_history.mp he
      obtain ⟨r', hr', _, h⟩ := Turn.exists_mem_after hx hf hu he hr
      refine ⟨r', hr', ?_⟩
      rcases h with rfl | ⟨hfound, clock, rfl⟩
      · exact .refl r'
      · exact Pass.livesOnAs_afterwards clock hfound
  · intro u hu r hr hout
    have hq : (Query.inScope u.pass.filters).isMatch r = false :=
      hout.elim (Query.not_isMatch_inScope u.pass.filters) id
    refine ((u.attempt.leads_trace u.found).invariant hr fun e he h => ?_).1
    obtain ⟨r', hr', _, rfl | ⟨_, clock, rfl⟩⟩ := Turn.exists_mem_after hx hf hu he h
    · exact hr'
    · rwa [Pass.afterwards_of_not_isMatch hq] at hr'

/-- Two records are resolved in the end, one before the last pass, and a third has been created. -/
theorem lifecycle_troubled :
    ((moments Pass.twoRecords (history Pass.twoRecords troubled)).Pairwise (fun m m' =>
      ∀ r ∈ m.records, ∃ r' ∈ m'.records, r.LivesOnAs r') ∧
    ∀ u ∈ turns Pass.twoRecords troubled, ∀ r ∈ u.found.records,
      r.status ≠ .active ∨ (Query.inScope u.pass.filters).isMatch r = false →
        ∀ m ∈ moments u.found u.trace, r ∈ m.records) ∧
    (turns Pass.twoRecords troubled).map
        (fun u => (u.attempt.leaves u.found).records.map fun r => (r.id, r.status)) =
      [[("a", .active), ("b", .active)],
        [("a", .active), ("b", .resolved), ("w", .active)],
        [("a", .active), ("b", .resolved), ("w", .active)],
        [("a", .resolved), ("b", .resolved), ("w", .active)]] :=
  ⟨lifecycle_history Pass.twoRecords troubled unnamed_troubled freshIds_troubled, by cbv⟩

/-- **A record that is at runtime throughout a series loses no evidence in it.** -/
theorem evidence_history (s : Store) (ys : List Attempt) (id : String)
    (hx : ∀ y ∈ ys, y.pass.Unnamed) (hf : FreshIds s ys)
    (hruntime : ∀ m ∈ moments s (history s ys), ∀ r ∈ m.records, r.id = id → r.stage = .runtime) :
    (moments s (history s ys)).Pairwise fun m m' =>
      ∀ r ∈ m.records, r.id = id → ∃ r' ∈ m'.records, r'.id = id ∧ r.CarriedBy r' := by
  refine ((leads_history s ys).pairwise (fun m r hr hid => ⟨r, hr, hid, .refl r⟩) ?_ ?_).1
  · intro l m n hlm hmn r hr hid
    obtain ⟨r', hr', hid', h⟩ := hlm r hr hid
    obtain ⟨r'', hr'', hid'', h'⟩ := hmn r' hr' hid'
    exact ⟨r'', hr'', hid'', h.trans h'⟩
  · intro e he r hr hid
    have hbefore := hruntime e.before ((leads_history s ys).before_mem he) r hr hid
    have hafter := hruntime e.after (Leads.after_mem s he)
    obtain ⟨u, hu, he⟩ := mem_history.mp he
    obtain ⟨r', hr', hid', h⟩ := Turn.exists_mem_after hx hf hu he hr
    refine ⟨r', hr', hid'.trans hid, ?_⟩
    rcases h with rfl | ⟨_, clock, rfl⟩
    · exact .refl r'
    · exact Pass.carriedBy_afterwards hbefore (hafter _ hr' (hid'.trans hid))

/-- What is known of connections adds up. -/
theorem evidence_troubled :
    ((moments Pass.twoRecords (history Pass.twoRecords troubled)).Pairwise fun m m' =>
      ∀ r ∈ m.records, r.id = "w" → ∃ r' ∈ m'.records, r'.id = "w" ∧ r.CarriedBy r') ∧
    (turns Pass.twoRecords troubled).map
        (fun u => ((u.attempt.leaves u.found).get? "w").map (·.violations.length)) =
      [none, some 1, some 1, some 3] := by
  have hruntime : (moments Pass.twoRecords (history Pass.twoRecords troubled)).all (fun m =>
      m.records.all fun r => r.id ≠ "w" || r.stage = .runtime) = true := by cbv
  refine ⟨evidence_history Pass.twoRecords troubled "w" unnamed_troubled freshIds_troubled ?_,
    by cbv⟩
  intro m hm r hr hid
  have hr' := List.all_eq_true.mp (List.all_eq_true.mp hruntime m hm) r hr
  simpa [hid] using hr'

end AlertLedger
