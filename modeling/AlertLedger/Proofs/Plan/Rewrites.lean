import AlertLedger.Proofs.Alert.Carried
import AlertLedger.Proofs.Pass.Created

/-!
# Records written over by themselves

A build or deploy record is updated only where the detection changes it. For a runtime record the
question is put to the evidence instead (`tellsNews`), and evidence that the record has beyond
the detection counts as news each time, although it stands in the record already. The main
statements:

* `succeed_eq_some_self_iff`: a record succeeds itself exactly where it `Outweighs` the detection,
  that is, where it is the detection under its own identity with more evidence behind;
* `succeed_settled_iff`: once such a detection has been joined into a record, every repetition of
  it has the record written over by itself;
* `replaces_of_mem_updated`: what is updated is the standing record itself where that outweighs
  the detection, and differs from it everywhere else.
-/

namespace AlertLedger

/-! ## 1. Evidence behind a list -/

theorem carried_append {α : Type} [Evidence α] {newer xs : List α} (h : ∀ x ∈ xs, x ∉ newer) :
    carried (newer ++ xs) newer = xs := by
  rw [carried_append_left, carried_self, List.nil_append, carried_eq_self h]

theorem hasFresh_append {α : Type} [Evidence α] (newer xs : List α) :
    hasFresh (newer ++ xs) newer = false :=
  hasFresh_eq_false_iff.mpr fun _ hx => List.mem_append_left xs hx

namespace Alert

/-- An alert with more evidence behind its own. The sentence is written anew over more processes,
and stays over the same ones. -/
def extended (a : Alert) (vs : List Violation) (ps : List ProcessSighting) : Alert :=
  { a with
    violations := a.violations ++ vs
    processEvidence := if ps = [] then a.processEvidence else some (.of (a.processes ++ ps)) }

theorem processes_extended (a : Alert) (vs : List Violation) (ps : List ProcessSighting) :
    (a.extended vs ps).processes = a.processes ++ ps := by
  by_cases h : ps = []
  · simp [extended, processes, h]
  · simp [extended, processes, h]

/-- Joining puts behind the newer alert's evidence what only the older has. -/
theorem absorb_eq_extended {older newer : Alert} (h : bothRuntime older newer = true) :
    absorb older newer = newer.extended (carried older.violations newer.violations)
      (carried older.processes newer.processes) := by
  rw [absorb, if_pos h, absorbViolations, violations_absorbProcesses, absorbProcesses]
  split
  · rename_i hnil
    simp [extended, hnil]
  · rename_i hne
    rw [extended, if_neg hne]

/-! ## 2. Records that succeed themselves -/

/-- Whether a runtime record says all that a runtime detection says, in the same order, and has
further evidence behind it. -/
def Outweighs (stored detected : Alert) : Prop :=
  bothRuntime stored detected = true ∧ ∃ vs ps, (vs ≠ [] ∨ ps ≠ []) ∧
    (∀ v ∈ vs, v ∉ detected.violations) ∧ (∀ p ∈ ps, p ∉ detected.processes) ∧
    stored = underIdentityOf stored (detected.extended vs ps)

/-- What a record has behind the evidence of a detection is what would be carried over. -/
theorem carried_of_eq_extended {stored detected : Alert} {vs : List Violation}
    {ps : List ProcessSighting} (hvs : ∀ v ∈ vs, v ∉ detected.violations)
    (hps : ∀ p ∈ ps, p ∉ detected.processes)
    (h : stored = underIdentityOf stored (detected.extended vs ps)) :
    carried stored.violations detected.violations = vs ∧
      carried stored.processes detected.processes = ps := by
  have ev : stored.violations = detected.violations ++ vs := congrArg Alert.violations h
  have ep : stored.processes = detected.processes ++ ps :=
    (congrArg Alert.processes h).trans (processes_extended detected vs ps)
  exact ⟨by rw [ev, carried_append hvs], by rw [ep, carried_append hps]⟩

theorem outweighs_iff {stored detected : Alert} :
    stored.Outweighs detected ↔ bothRuntime stored detected = true ∧
      (carried stored.violations detected.violations ≠ [] ∨
        carried stored.processes detected.processes ≠ []) ∧
      underIdentityOf stored (absorb stored detected) = stored := by
  constructor
  · rintro ⟨hb, vs, ps, hne, hvs, hps, h⟩
    obtain ⟨cv, cp⟩ := carried_of_eq_extended hvs hps h
    rw [absorb_eq_extended hb, cv, cp]
    exact ⟨hb, hne, h.symm⟩
  · rintro ⟨hb, hne, h⟩
    rw [absorb_eq_extended hb] at h
    exact ⟨hb, _, _, hne, fun v hv => (mem_carried.mp hv).2, fun p hp => (mem_carried.mp hp).2,
      h.symm⟩

theorem tellsNews_of_carried {stored detected : Alert} (hb : bothRuntime stored detected = true)
    (h : carried stored.violations detected.violations ≠ [] ∨
      carried stored.processes detected.processes ≠ []) : tellsNews stored detected = true := by
  rcases h with h | h <;> simp [tellsNews, hb, h]

/-- A record that joining leaves as it is has all that the detection has. It tells news only by
what it has beyond that. -/
theorem carried_of_tellsNews {stored detected : Alert} (ht : tellsNews stored detected = true)
    (hb : bothRuntime stored detected = true)
    (h : underIdentityOf stored (absorb stored detected) = stored) :
    carried stored.violations detected.violations ≠ [] ∨
      carried stored.processes detected.processes ≠ [] := by
  have hfv : hasFresh stored.violations detected.violations = false := by
    rw [← congrArg Alert.violations h]
    exact (congrArg (hasFresh · _) (violations_absorb hb)).trans (hasFresh_append _ _)
  have hfp : hasFresh stored.processes detected.processes = false := by
    rw [← congrArg Alert.processes h]
    exact (congrArg (hasFresh · _) (processes_absorb hb)).trans (hasFresh_append _ _)
  rw [tellsNews, hfv, hfp] at ht
  simpa [hb, or_comm] using ht

/-- **A record succeeds itself** exactly where it outweighs the detection. -/
theorem succeed_eq_some_self_iff {stored detected : Alert} :
    succeed stored detected = some stored ↔ stored.Outweighs detected := by
  rw [outweighs_iff]
  cases hb : bothRuntime stored detected with
  | false =>
    -- a record that is not joined is compared as a whole
    simp only [succeed, hb, Bool.false_eq_true, if_false, false_and, iff_false]
    split
    · intro e
      cases e
    · rename_i h
      exact fun e => h (Option.some.inj e)
  | true =>
    cases ht : tellsNews stored detected with
    | false =>
      have hnone : succeed stored detected = none := by simp [succeed, hb, ht]
      rw [hnone]
      constructor
      · intro e
        cases e
      · intro h
        rw [tellsNews_of_carried hb h.2.1] at ht
        cases ht
    | true =>
      rw [succeed, if_pos hb, if_pos ht, Option.some.injEq]
      exact ⟨fun h => ⟨rfl, carried_of_tellsNews ht hb h, h⟩, fun h => h.2.2⟩

/-- **A joined record is written over by itself** whenever the detection is met again: exactly
where both are of runtime and the record had anything to carry over. -/
theorem succeed_settled_iff {stored detected : Alert} :
    succeed (settled stored detected) detected = some (settled stored detected) ↔
      bothRuntime stored detected = true ∧
        (carried stored.violations detected.violations ≠ [] ∨
          carried stored.processes detected.processes ≠ []) := by
  rw [succeed_eq_some_self_iff, outweighs_iff]
  cases hb : bothRuntime stored detected with
  | false =>
    rw [settled_of_not_bothRuntime hb]
    simp [underIdentityOf, processes]
  | true =>
    cases ht : tellsNews stored detected with
    | false =>
      rw [settled_of_not_tellsNews hb ht]
      refine ⟨fun h => ⟨rfl, h.2.1⟩, fun h => ?_⟩
      rw [tellsNews_of_carried hb h.2] at ht
      cases ht
    | true =>
      let next := underIdentityOf stored (absorb stored detected)
      have hv : carried next.violations detected.violations =
          carried stored.violations detected.violations :=
        (congrArg (carried · _) (violations_absorb hb)).trans (carried_append_carried _ _)
      have hp : carried next.processes detected.processes =
          carried stored.processes detected.processes :=
        (congrArg (carried · _) (processes_absorb hb)).trans (carried_append_carried _ _)
      have hruntime : bothRuntime next detected = true := by
        obtain ⟨_, hd⟩ := bothRuntime_iff.mp hb
        exact bothRuntime_iff.mpr ⟨(stage_eq_of_bare (bare_absorb stored detected)).trans hd, hd⟩
      have hsame : absorb next detected = absorb stored detected :=
        absorb_congr (hruntime.trans hb.symm) hp hv
      have hstays : underIdentityOf next (absorb next detected) = next := by
        rw [hsame]
        rfl
      rw [settled_of_tellsNews ht]
      change bothRuntime next detected = true ∧ (carried next.violations _ ≠ [] ∨
        carried next.processes _ ≠ []) ∧ underIdentityOf next (absorb next detected) = next ↔ _
      simp only [hruntime, hv, hp, hstays, and_true]

end Alert

/-! ## 3. Updates of a plan -/

namespace Plan

/-- **What an update replaces**: the record that stands for its key. The two are one and the same
where that record outweighs the detection, and nowhere else. -/
theorem replaces_of_mem_updated {batch records : List Alert} {a : Alert}
    (h : a ∈ (Plan.of batch records).updated) :
    ∃ d r, detection? batch a.key = some d ∧ standing? records a.key = some r ∧
      (a = r ↔ r.Outweighs d) := by
  obtain ⟨k, d, r, hd, hr, hs⟩ := mem_updated_iff.mp h
  have hk : a.key = k := (Alert.key_of_succeed hs).trans (key_of_detection? hd)
  rw [hk]
  refine ⟨d, r, hd, hr, ?_⟩
  rw [← Alert.succeed_eq_some_self_iff, hs, Option.some.injEq]

/-! A runtime record that holds two violations, and a detection of the first of them alone. -/

/-- The record, with the evidence of two detections. -/
def bothSeen : Alert :=
  { Alert.raised "a" "shell" .runtime 1 with violations := [.generic "second", .generic "first"] }

/-- The detection, with the evidence that the record has in front. -/
def secondSeen : Alert :=
  { Alert.raised "" "shell" .runtime 3 with violations := [.generic "second"] }

/-- The record outweighs the detection, and is updated to itself. -/
theorem replaces_bothSeen : bothSeen ∈ (Plan.of [secondSeen] [bothSeen]).updated ∧
    ∃ d r, detection? [secondSeen] bothSeen.key = some d ∧
      standing? [bothSeen] bothSeen.key = some r ∧ (bothSeen = r ↔ r.Outweighs d) := by
  have h : bothSeen ∈ (Plan.of [secondSeen] [bothSeen]).updated := by decide
  exact ⟨h, replaces_of_mem_updated h⟩

/-- Not every update differs from the record that it replaces. -/
theorem not_differs_bothSeen : ¬ ∀ (batch records : List Alert) (a r : Alert),
    a ∈ (Plan.of batch records).updated → standing? records a.key = some r → a ≠ r := by
  intro h
  exact h [secondSeen] [bothSeen] bothSeen bothSeen (by decide) (by decide) rfl

end Plan

end AlertLedger
