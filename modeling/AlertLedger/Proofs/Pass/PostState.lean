import AlertLedger.Proofs.Pass.Prompt
import Mathlib

/-!
# The store after a pass

What a pass that nothing gets in the way of leaves behind, said finding by finding (`Reconciled`):
one record in scope for each finding detected and none for any other, the first of several records
kept under its id, and every other record that was in scope resolved at the clock of the pass. The
main statement is `reconciled_run_prompt`.

The pass looks at the store through its query alone, so what it leaves in scope has to be found out
there too: a record written over stays in scope (`isMatch_afterwards_iff`), and a created alert
enters the scope unless it reports an attempted enforcement (`isMatch_of_mem_created`).
-/

namespace AlertLedger.Pass

variable {x : Pass} {s : Store} {clock : Call → Instant}

/-! ## 1. What is in scope afterwards -/

/-- The detection for a key lies in the scope of the pass. -/
theorem isMatch_of_detection? (hc : x.Covered) {k : Key} {d : Alert}
    (h : Plan.detection? x.batch k = some d) : (Query.inScope x.filters).isMatch d = true := by
  obtain ⟨a, ha, _, hbare⟩ := Plan.exists_of_detection? h
  obtain ⟨hmem, hstatus⟩ := Plan.mem_findings.mp ha
  rw [Alert.isMatch_eq_of_bare hbare]
  exact (hc a hmem).resolve_left hstatus

theorem not_isMatch_resolve (fs : List ScopeFilter) (a : Alert) (t : Instant) :
    (Query.inScope fs).isMatch (a.resolve t) = false :=
  Query.not_isMatch_inScope fs fun h => by cases h

/-- **In scope afterwards are the records that stand for a finding detected.** -/
theorem isMatch_afterwards_iff (hc : x.Covered) {r : Alert} (hr : r ∈ s.records) :
    (Query.inScope x.filters).isMatch (x.afterwards s clock r) = true ↔
      s.Stands (.inScope x.filters) r ∧ Plan.Detects x.batch r.key := by
  rcases afterwards_cases (x := x) clock hr with ⟨hq, e⟩ | ⟨hstale, e⟩ | ⟨d, hstands, hd, e⟩
  · rw [e, hq]
    exact iff_of_false Bool.false_ne_true fun h => by
      rw [h.1.isMatch] at hq
      cases hq
  · rw [e, not_isMatch_resolve]
    exact iff_of_false Bool.false_ne_true (mem_stale_plan_iff.mp hstale).2.2
  · rw [e]
    exact iff_of_true (Alert.isMatch_settled hstands.isMatch (isMatch_of_detection? hc hd))
      ⟨hstands, Plan.detects_of_detection? hd⟩

/-- A created alert is in scope unless it reports an attempted enforcement, and then no record in
scope had its key. -/
theorem isMatch_of_mem_created (hx : x.Unnamed) (hc : x.Covered) {a : Alert}
    (ha : a ∈ x.created s) :
    a.status = .attempted ∨ ((Query.inScope x.filters).isMatch a = true ∧
      Plan.Detects x.batch a.key ∧
      ∀ c ∈ s.records, (Query.inScope x.filters).isMatch c = true → c.key ≠ a.key) := by
  obtain ⟨b, hb, n, rfl⟩ := exists_of_mem_created hx ha
  rcases mem_new_plan_iff.mp hb with ⟨_, hattempted⟩ | ⟨hd, hnone⟩
  · exact .inl hattempted
  · have hq : (Query.inScope x.filters).isMatch b = true := isMatch_of_detection? hc hd
    exact .inr ⟨hq, Plan.detects_of_detection? hd, hnone⟩

/-- Where the whole batch is in scope, all that is created is in scope. -/
theorem isMatch_of_mem_created_of_scoped (hx : x.Unnamed) (hsc : x.Scoped) {a : Alert}
    (ha : a ∈ x.created s) : (Query.inScope x.filters).isMatch a = true ∧
      ∀ c ∈ s.records, (Query.inScope x.filters).isMatch c = true → c.key ≠ a.key := by
  have hstatus : a.status ≠ .attempted := by
    obtain ⟨b, hb, n, rfl⟩ := exists_of_mem_created hx ha
    show b.status ≠ .attempted
    exact Plan.status_of_detection? ((mem_new_plan_iff_of_scoped hsc).mp hb).1
  obtain ⟨hq, _, hnone⟩ := (isMatch_of_mem_created hx hsc.covered ha).resolve_left hstatus
  exact ⟨hq, hnone⟩

/-- What is in scope after the whole plan. -/
theorem mem_fulfilled_isMatch_iff (clock : Call → Instant) (hx : x.Unnamed) (hc : x.Covered)
    (hf : x.DrawsFresh s) {a : Alert} :
    (a ∈ (x.fulfilled s clock).records ∧ (Query.inScope x.filters).isMatch a = true) ↔
      (∃ r, s.Stands (.inScope x.filters) r ∧ Plan.Detects x.batch r.key ∧
        x.afterwards s clock r = a) ∨ (a ∈ x.created s ∧ a.status ≠ .attempted) := by
  rw [mem_fulfilled_iff hx hf]
  constructor
  · rintro ⟨⟨r, hr, rfl⟩ | ha, hq⟩
    · obtain ⟨hstands, hk⟩ := (isMatch_afterwards_iff hc hr).mp hq
      exact .inl ⟨r, hstands, hk, rfl⟩
    · exact .inr ⟨ha, Query.not_attempted_of_isMatch_inScope hq⟩
  · rintro (⟨r, hstands, hk, rfl⟩ | ⟨ha, hstatus⟩)
    · exact ⟨.inl ⟨r, hstands.mem, rfl⟩, (isMatch_afterwards_iff hc hstands.mem).mpr ⟨hstands, hk⟩⟩
    · exact ⟨.inr ha, ((isMatch_of_mem_created hx hc ha).resolve_left hstatus).1⟩

/-! ## 2. One record for each finding -/

/-- Each finding detected has a record in scope after the whole plan. -/
theorem exists_mem_fulfilled (clock : Call → Instant) (hx : x.Unnamed) (hc : x.Covered)
    (hf : x.DrawsFresh s) {k : Key} (hk : Plan.Detects x.batch k) :
    ∃ a ∈ (x.fulfilled s clock).records,
      (Query.inScope x.filters).isMatch a = true ∧ a.key = k := by
  obtain ⟨d, hd⟩ := Plan.detection?_of_detects hk
  cases hstanding : Plan.standing? (s.select (.inScope x.filters)) k with
  | some r =>
    -- the record that stands for the key stays in scope
    obtain ⟨hr, rfl⟩ := Store.standing?_select_eq_some_iff.mp hstanding
    obtain ⟨hmem, hq⟩ := (mem_fulfilled_isMatch_iff clock hx hc hf).mpr
      (.inl ⟨r, hr, hk, rfl⟩)
    exact ⟨_, hmem, hq, key_afterwards x s clock r⟩
  | none =>
    -- no record stands for it, so the detection is new
    obtain rfl := Plan.key_of_detection? hd
    have hnew : d ∈ (x.plan s).new :=
      mem_new_plan_iff.mpr (.inr ⟨hd, Store.standing?_eq_none_iff.mp hstanding⟩)
    obtain ⟨a, ha, e⟩ := exists_mem_created x s hnew
    have hkey : a.key = d.key := by simpa [Alert.key] using congrArg Alert.key e
    have hstatus : a.status = d.status := by simpa using congrArg Alert.status e
    have hne : a.status ≠ .attempted := hstatus ▸ Plan.status_of_detection? hd
    obtain ⟨hmem, hq⟩ := (mem_fulfilled_isMatch_iff clock hx hc hf).mpr (.inr ⟨ha, hne⟩)
    exact ⟨a, hmem, hq, hkey⟩

/-- No finding has two records in scope after the whole plan. -/
theorem eq_of_key_eq_of_mem_fulfilled (hx : x.Unnamed) (hc : x.Covered) (hf : x.DrawsFresh s)
    {a b : Alert} (ha : a ∈ (x.fulfilled s clock).records)
    (hqa : (Query.inScope x.filters).isMatch a = true) (hb : b ∈ (x.fulfilled s clock).records)
    (hqb : (Query.inScope x.filters).isMatch b = true) (h : a.key = b.key) : a = b := by
  have hapart : ∀ {r c : Alert}, s.Stands (.inScope x.filters) r → c ∈ x.created s →
      c.status ≠ .attempted → (x.afterwards s clock r).key ≠ c.key := by
    intro r c hr hcr hne e
    obtain ⟨_, _, hnone⟩ := (isMatch_of_mem_created hx hc hcr).resolve_left hne
    rw [key_afterwards] at e
    exact hnone _ hr.mem hr.isMatch e
  have hiff {c : Alert} := mem_fulfilled_isMatch_iff (a := c) clock hx hc hf
  rcases hiff.mp ⟨ha, hqa⟩ with ⟨r, hr, _, rfl⟩ | ⟨ha, hna⟩ <;>
    rcases hiff.mp ⟨hb, hqb⟩ with ⟨r', hr', _, rfl⟩ | ⟨hb, hnb⟩
  · rw [key_afterwards, key_afterwards] at h
    rw [hr.unique hr' h]
  · exact absurd h (hapart hr hb hnb)
  · exact absurd h.symm (hapart hr' ha hna)
  · exact eq_of_key_eq_of_mem_created ha hb hna hnb h

/-- What is in scope after the whole plan was detected. -/
theorem detects_of_mem_fulfilled (hx : x.Unnamed) (hc : x.Covered) (hf : x.DrawsFresh s)
    {a : Alert} (ha : a ∈ (x.fulfilled s clock).records)
    (hq : (Query.inScope x.filters).isMatch a = true) : Plan.Detects x.batch a.key := by
  rcases (mem_fulfilled_isMatch_iff clock hx hc hf).mp ⟨ha, hq⟩ with ⟨r, _, hr, rfl⟩ | ⟨ha, hne⟩
  · rwa [key_afterwards]
  · exact ((isMatch_of_mem_created hx hc ha).resolve_left hne).2.1

/-! ## 3. The store after a pass -/

/-- What a pass owes a store: `s'` is the store after it. -/
structure Reconciled (x : Pass) (s s' : Store) : Prop where
  /-- A finding detected has exactly one record in scope. -/
  detected : ∀ k, Plan.Detects x.batch k →
    ∃! a, a ∈ s'.records ∧ (Query.inScope x.filters).isMatch a = true ∧ a.key = k
  /-- Any other has none. -/
  undetected : ∀ k, ¬ Plan.Detects x.batch k →
    ∀ a ∈ s'.records, (Query.inScope x.filters).isMatch a = true → a.key ≠ k
  /-- Of the records for a finding detected the first one stays, under its id. -/
  kept : ∀ r, s.Stands (.inScope x.filters) r → Plan.Detects x.batch r.key →
    ∃ a, s'.get? r.id = some a ∧ (Query.inScope x.filters).isMatch a = true ∧ a.key = r.key
  /-- Every other record that was in scope is resolved at the clock of the pass. -/
  retired : ∀ r ∈ s.records, (Query.inScope x.filters).isMatch r = true →
    ¬ (s.Stands (.inScope x.filters) r ∧ Plan.Detects x.batch r.key) →
      s'.get? r.id = some (r.resolve x.now)

theorem reconciled_fulfilled (hx : x.Unnamed) (hc : x.Covered) (hf : x.DrawsFresh s) :
    x.Reconciled s (x.fulfilled s fun _ => x.now) where
  detected k hk := by
    obtain ⟨a, ha, hq, hkey⟩ := exists_mem_fulfilled (fun _ => x.now) hx hc hf hk
    refine ⟨a, ⟨ha, hq, hkey⟩, fun b hb => ?_⟩
    exact eq_of_key_eq_of_mem_fulfilled hx hc hf hb.1 hb.2.1 ha hq (hb.2.2.trans hkey.symm)
  undetected k hk a ha hq hkey := hk (hkey ▸ detects_of_mem_fulfilled hx hc hf ha hq)
  kept r hr hk :=
    ⟨_, get?_fulfilled_of_mem (fun _ => x.now) hx hf hr.mem,
      (isMatch_afterwards_iff hc hr.mem).mpr ⟨hr, hk⟩, key_afterwards x s (fun _ => x.now) r⟩
  retired r hr hq h := by
    rw [get?_fulfilled_of_mem (fun _ => x.now) hx hf hr,
      afterwards_of_mem_stale (mem_stale_plan_iff.mpr ⟨hr, hq, h⟩)]

/-- **A pass that nothing gets in the way of reconciles the store**: it succeeds, leaves one record
in scope for each finding detected, keeps the first of several, and resolves all the others. -/
theorem reconciled_run_prompt (x : Pass) (s : Store) (notify : Alert → Except NotifyError Unit)
    (hs : s.denied = false) (hx : x.Unnamed) (hc : x.Covered) (hf : x.DrawsFresh s) :
    (∃ report, verdict (x.run (.prompt (fun _ => x.now) notify) s) = .ok report) ∧
      x.Reconciled s (x.run (.prompt (fun _ => x.now) notify) s).final := by
  obtain ⟨calls, report, hrun, _⟩ := run_prompt (fun _ => x.now) notify hs hx hf
  rw [hrun]
  exact ⟨⟨report, rfl⟩, reconciled_fulfilled hx hc hf⟩

/-- Two records of one finding and one of another. -/
def threeRecords : Store where
  records := [.raised "a" "shell" .runtime 1, .raised "b" "shell" .runtime 2,
    .raised "c" "root" .deploy 2]
  denied := false
  ascending := by decide
  named := by decide

/-- A pass that detects the finding with two records. -/
def detectsShell : Pass :=
  ⟨.ofMillis 1, .hour 4, tally 'x', [.raised "" "shell" .runtime 3], [.entity "web"]⟩

/-- Two records of three are resolved, and the first of the finding detected stays. -/
theorem reconciled_threeRecords :
    ((∃ report, verdict (detectsShell.run (.prompt (fun _ => .hour 4) fun _ => .ok ())
        threeRecords) = .ok report) ∧
      detectsShell.Reconciled threeRecords
        (detectsShell.run (.prompt (fun _ => .hour 4) fun _ => .ok ()) threeRecords).final) ∧
    (detectsShell.fulfilled threeRecords fun _ => .hour 4).records.map (·.status) =
      [.active, .resolved, .resolved] :=
  ⟨reconciled_run_prompt detectsShell threeRecords (fun _ => .ok ()) rfl
    (by unfold Unnamed; decide) (by unfold Covered; decide) (drawsFresh_of_tally rfl (by decide)),
    by cbv⟩

end AlertLedger.Pass
