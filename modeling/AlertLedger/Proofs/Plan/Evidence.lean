import AlertLedger.Proofs.Alert.Carried
import AlertLedger.Proofs.Pass.Created

/-!
# Evidence in a plan

What a plan does with the evidence of a batch. Where it has nothing written, the record has the
evidence already, and what else it says of the finding is right too, unless it is a runtime record
(`reflects_of_succeed_eq_none`): that is asked for its evidence alone, and stays behind when policy
or entity have changed.

Of several alerts of one key, those go into the detection that the first of them can be joined with
(`GoesIn`, `mem_detection?`). What is kept of a detected key (`Keeps`) has all their evidence
(`keeps_evidence`), whether it is new, written over or left as it is.
-/

namespace AlertLedger

namespace Alert

/-! ## 1. Detections that nothing is written for -/

/-- Whether a record says of its finding what a detection of it says. -/
structure Reflects (stored detected : Alert) : Prop where
  policy : stored.policy = detected.policy
  entity : stored.entity = detected.entity
  stage : stored.stage = detected.stage
  evidence : detected.CarriedBy stored

/-- **A detection that nothing is written for** adds no evidence, nor is it of another stage. The
record reflects it, but for the policy and the entity of a runtime record. -/
theorem reflects_of_succeed_eq_none {stored detected : Alert} (h : succeed stored detected = none) :
    stored.stage = detected.stage ∧ detected.CarriedBy stored ∧
      (stored.Reflects detected ↔ (stored.stage = .runtime →
        stored.policy = detected.policy ∧ stored.entity = detected.entity)) := by
  rw [succeed_eq_none_iff] at h
  split at h
  · rename_i hb
    obtain ⟨hs, hd⟩ := bothRuntime_iff.mp hb
    have hstage : stored.stage = detected.stage := hs.trans hd.symm
    have hevidence : detected.CarriedBy stored := (sameEvidence_iff.mp h).2
    refine ⟨hstage, hevidence, fun hr _ => ⟨hr.policy, hr.entity⟩, fun hsubject => ?_⟩
    exact ⟨(hsubject hs).1, (hsubject hs).2, hstage, hevidence⟩
  · -- the detection is the record but for its identity
    have hpolicy : stored.policy = detected.policy := (congrArg Alert.policy h).symm
    have hentity : stored.entity = detected.entity := (congrArg Alert.entity h).symm
    have hstage : stored.stage = detected.stage := (congrArg Alert.stage h).symm
    have hevidence : stored.SameEvidence detected := by
      have hsame := underIdentityOf_sameEvidence stored detected
      rwa [h] at hsame
    have hcarried : detected.CarriedBy stored := (sameEvidence_iff.mp hevidence).2
    exact ⟨hstage, hcarried, fun _ _ => ⟨hpolicy, hentity⟩,
      fun _ => ⟨hpolicy, hentity, hstage, hcarried⟩⟩

/-- A runtime record with two violations. -/
def shellTwice : Alert :=
  { raised "a" "shell" .runtime 1 with violations := [.generic "second", .generic "first"] }

/-- The two violations in another order, two hours later. -/
def shellTwiceAgain : Alert :=
  { raised "" "shell" .runtime 3 with violations := [.generic "first", .generic "second"] }

/-- The record reflects the same evidence in another order. -/
theorem reflects_shellTwice : succeed shellTwice shellTwiceAgain = none ∧
    shellTwice.stage = shellTwiceAgain.stage ∧ shellTwiceAgain.CarriedBy shellTwice ∧
      (shellTwice.Reflects shellTwiceAgain ↔ (shellTwice.stage = .runtime →
        shellTwice.policy = shellTwiceAgain.policy ∧
          shellTwice.entity = shellTwiceAgain.entity)) := by
  have h : succeed shellTwice shellTwiceAgain = none := by decide
  exact ⟨h, reflects_of_succeed_eq_none h⟩

/-- The same violations after the policy has become a critical one. -/
def shellTwiceCritical : Alert :=
  { shellTwiceAgain with policy := ⟨"shell", "", .critical⟩ }

/-- A runtime record does not reflect every detection of its finding that nothing is written for. -/
theorem not_reflects_critical : ¬ ∀ stored detected : Alert, stored.key = detected.key →
    succeed stored detected = none → stored.Reflects detected := by
  intro h
  have hpolicy := (h shellTwice shellTwiceCritical (by decide) (by decide)).policy
  exact absurd hpolicy (by decide)

end Alert

namespace Plan

/-! ## 2. The evidence of a detection -/

/-- The first alert of a batch that reports a finding. -/
def first? (batch : List Alert) (k : Key) : Option Alert := (findings batch).find? (·.key = k)

/-- Whether an alert goes into the detection for its key: it is the first with the key, or it and
the first are both of runtime. -/
def GoesIn (batch : List Alert) (a : Alert) : Prop :=
  ∃ b, first? batch a.key = some b ∧ (a = b ∨ Alert.bothRuntime a b = true)

theorem mem_withKey {as : List Alert} {k : Key} {a : Alert} :
    a ∈ withKey k as ↔ a ∈ as ∧ a.key = k := by
  simp [withKey]

theorem first?_of_withKey {batch rest : List Alert} {k : Key} {b : Alert}
    (h : withKey k (findings batch) = b :: rest) : first? batch k = some b := by
  rw [first?, ← List.head?_filter, ← withKey, h]
  rfl

/-- **A detection has the evidence of the alerts that go into it**, and no other. This holds of
either list of evidence. -/
theorem mem_detection? {α : Type} {evidence : Alert → List α}
    (hjoined : ∀ {older newer : Alert} {x : α}, x ∈ evidence (older.absorb newer) ↔
      x ∈ evidence newer ∨ older.bothRuntime newer = true ∧ x ∈ evidence older)
    {batch : List Alert} {k : Key} {d : Alert} (h : detection? batch k = some d) {x : α} :
    x ∈ evidence d ↔ ∃ a ∈ findings batch, a.key = k ∧ GoesIn batch a ∧ x ∈ evidence a := by
  unfold detection? at h
  cases hw : withKey k (findings batch) with
  | nil =>
    rw [hw] at h
    cases h
  | cons b rest =>
    have hfirst := first?_of_withKey hw
    have hmem : ∀ a, a ∈ b :: rest ↔ a ∈ findings batch ∧ a.key = k := fun a => hw ▸ mem_withKey
    rw [hw] at h
    rw [← Option.some.inj h, Alert.mem_foldl_absorb hjoined]
    constructor
    · rintro (hx | ⟨a, ha, hb, hx⟩)
      · obtain ⟨hb, rfl⟩ := (hmem b).mp List.mem_cons_self
        exact ⟨b, hb, rfl, ⟨b, hfirst, .inl rfl⟩, hx⟩
      · obtain ⟨ha, rfl⟩ := (hmem a).mp (List.mem_cons_of_mem b ha)
        exact ⟨a, ha, rfl, ⟨b, hfirst, .inr hb⟩, hx⟩
    · rintro ⟨a, ha, rfl, ⟨c, hc, hin⟩, hx⟩
      obtain rfl : b = c := Option.some.inj (hfirst.symm.trans hc)
      rcases hin with rfl | hb
      · exact .inl hx
      · rcases List.mem_cons.mp ((hmem a).mpr ⟨ha, rfl⟩) with rfl | hrest
        · exact .inl hx
        · exact .inr ⟨a, hrest, hb, hx⟩

theorem carriedBy_of_detection? {batch : List Alert} {a d : Alert} (ha : a ∈ findings batch)
    (hin : GoesIn batch a) (h : detection? batch a.key = some d) : a.CarriedBy d where
  violations := fun _ hv =>
    (mem_detection? Alert.mem_violations_absorb h).mpr ⟨a, ha, rfl, hin, hv⟩
  processes := fun _ hp =>
    (mem_detection? Alert.mem_processes_absorb h).mpr ⟨a, ha, rfl, hin, hp⟩

/-! ## 3. What is kept of a detected key -/

/-- What a plan keeps of a detected key: the new alert, the updated record, or the record that
stands for a key without changes. -/
def Keeps (batch records : List Alert) (k : Key) (a : Alert) : Prop :=
  (a ∈ findings (Plan.of batch records).new ∧ a.key = k) ∨
    (a ∈ (Plan.of batch records).updated ∧ a.key = k) ∨
      (k ∈ (Plan.of batch records).unchanged ∧ standing? records k = some a)

/-- What is kept is the detection itself, or what the record that stands for the key comes to. -/
theorem keeps_iff {batch records : List Alert} {k : Key} {a : Alert} :
    Keeps batch records k a ↔ ∃ d, detection? batch k = some d ∧
      ((standing? records k = none ∧ a = d) ∨
        ∃ r, standing? records k = some r ∧ a = Alert.settled r d) := by
  rw [Keeps, mem_findings_new_iff, mem_updated_iff, mem_unchanged_iff]
  constructor
  · rintro (⟨⟨l, hd, hr⟩, rfl⟩ | ⟨⟨l, d, r, hd, hr, hs⟩, rfl⟩ | ⟨⟨d, r, hd, hr, hs⟩, ha⟩)
    · rw [key_of_detection? hd]
      exact ⟨a, hd, .inl ⟨hr, rfl⟩⟩
    · rw [Alert.key_of_succeed hs, key_of_detection? hd]
      exact ⟨d, hd, .inr ⟨r, hr, (Alert.settled_of_succeed hs).symm⟩⟩
    · obtain rfl : r = a := Option.some.inj (hr.symm.trans ha)
      exact ⟨d, hd, .inr ⟨r, hr, by rw [Alert.settled, hs, Option.getD_none]⟩⟩
  · rintro ⟨d, hd, ⟨hr, rfl⟩ | ⟨r, hr, rfl⟩⟩
    · exact .inl ⟨⟨k, hd, hr⟩, key_of_detection? hd⟩
    · cases hs : Alert.succeed r d with
      | none =>
        rw [Alert.settled, hs, Option.getD_none]
        exact .inr (.inr ⟨⟨d, r, hd, hr, hs⟩, hr⟩)
      | some b =>
        rw [Alert.settled_of_succeed hs]
        refine .inr (.inl ⟨⟨k, d, r, hd, hr, hs⟩, ?_⟩)
        rw [Alert.key_of_succeed hs, key_of_detection? hd]

/-- **No evidence of an alert is lost that goes into the detection for its key.** Something is kept
of the key, and what is kept has all evidence of the alert. -/
theorem keeps_evidence {batch : List Alert} (records : List Alert) {a : Alert}
    (ha : a ∈ findings batch) (hin : GoesIn batch a) :
    (∃ b, Keeps batch records a.key b) ∧ ∀ b, Keeps batch records a.key b → a.CarriedBy b := by
  constructor
  · obtain ⟨d, hd⟩ := detection?_of_detects ⟨a, ha, rfl⟩
    cases hr : standing? records a.key with
    | none => exact ⟨d, keeps_iff.mpr ⟨d, hd, .inl ⟨hr, rfl⟩⟩⟩
    | some r => exact ⟨r.settled d, keeps_iff.mpr ⟨d, hd, .inr ⟨r, hr, rfl⟩⟩⟩
  · intro b hb
    obtain ⟨d, hd, hkept⟩ := keeps_iff.mp hb
    have hcarried := carriedBy_of_detection? ha hin hd
    rcases hkept with ⟨_, rfl⟩ | ⟨r, _, rfl⟩
    · exact hcarried
    · exact hcarried.trans (Alert.detected_carriedBy_settled r d)

/-- An alert of one violation, raised at a stage. -/
def foundAt (stage : Stage) (message : String) : Alert :=
  { Alert.raised "" "shell" stage 3 with violations := [.generic message] }

/-- Two runtime alerts of one key with a deploy alert between them. -/
def foundThrice : List Alert :=
  [foundAt .runtime "first", foundAt .deploy "second", foundAt .runtime "third"]

/-- The last of them goes into the detection, beside a runtime record of the key. -/
theorem keeps_evidence_thrice :
    foundAt .runtime "third" ∈ findings foundThrice ∧
    GoesIn foundThrice (foundAt .runtime "third") ∧
    (∃ b, Keeps foundThrice [Alert.shellTwice] (foundAt .runtime "third").key b) ∧
      ∀ b, Keeps foundThrice [Alert.shellTwice] (foundAt .runtime "third").key b →
        (foundAt .runtime "third").CarriedBy b := by
  have ha : foundAt .runtime "third" ∈ findings foundThrice := by decide
  have hin : GoesIn foundThrice (foundAt .runtime "third") :=
    ⟨foundAt .runtime "first", by decide, .inr (by decide)⟩
  exact ⟨ha, hin, keeps_evidence [Alert.shellTwice] ha hin⟩

/-- Not every alert of a batch has its evidence kept: of two that are not of runtime, the second
is lost. -/
theorem not_keeps_evidence_deployed : ¬ ∀ (batch records : List Alert), ∀ a ∈ findings batch,
    ∃ b, Keeps batch records a.key b ∧ a.CarriedBy b := by
  intro h
  obtain ⟨b, hkept, hcarried⟩ :=
    h [foundAt .deploy "first", foundAt .deploy "second"] [] (foundAt .deploy "second") (by decide)
  obtain ⟨d, hd, ⟨_, rfl⟩ | ⟨r, hr, _⟩⟩ := keeps_iff.mp hkept
  · have hd' : detection? [foundAt .deploy "first", foundAt .deploy "second"]
        (foundAt .deploy "second").key = some (foundAt .deploy "first") := by decide
    rw [hd', Option.some.injEq] at hd
    subst hd
    have hmem : Violation.generic "second" ∈ (foundAt .deploy "first").violations :=
      hcarried.violations (by decide)
    exact absurd hmem (by decide)
  · cases hr

end Plan

end AlertLedger
