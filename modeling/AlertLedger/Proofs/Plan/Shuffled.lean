import AlertLedger.Proofs.Plan.Accounting

/-!
# Plans for what comes in another order

Batches and records come in some order, and a plan looks at it: the first alert of a key is the one
that the others are joined into, and the first record of a key stands for it. Where all alerts of a
key can be joined (`Joinable`) and no two records share a key, the order shows in little more than
the order of the evidence (`Alike`, `alike_of_shuffled`).

The steps follow the plan: the same record stands for a key (`Shuffled.standing?_eq`), the
detections for a key have the same evidence (`Shuffled.sameEvidence_of_detection?`), and so they
change the record alike (`Interchangeable.succeed_eq_none_iff`).
-/

namespace AlertLedger

/-! ## 1. Interchangeable detections -/

namespace Alert

/-- Two detections of a key that differ in nothing but the order of their evidence, or in whatever
else one runtime alert may differ from another. -/
structure Interchangeable (a b : Alert) : Prop where
  evidence : a.SameEvidence b
  same : a = b ∨ bothRuntime a b = true

section Interchangeable

variable {a b : Alert} (h : a.Interchangeable b) (stored : Alert)
include h

theorem Interchangeable.bothRuntime : stored.bothRuntime a = stored.bothRuntime b := by
  rcases h.same with rfl | hb
  · rfl
  · obtain ⟨ha, hb⟩ := bothRuntime_iff.mp hb
    simp [Alert.bothRuntime, isRuntime, ha, hb]

/-- Interchangeable detections change a record both or neither. -/
theorem Interchangeable.succeed_eq_none_iff :
    succeed stored a = none ↔ succeed stored b = none := by
  rcases h.same with rfl | hb
  · rfl
  · obtain ⟨ha, hb⟩ := bothRuntime_iff.mp hb
    rw [Alert.succeed_eq_none_iff, Alert.succeed_eq_none_iff, h.bothRuntime]
    split
    · exact ⟨fun hs => hs.trans h.evidence, fun hs => hs.trans h.evidence.symm⟩
    · -- a record of another stage is replaced by either
      rename_i hnot
      have hstage : stored.stage ≠ .runtime := fun hs => hnot (bothRuntime_iff.mpr ⟨hs, hb⟩)
      refine iff_of_false (fun e => hstage ?_) fun e => hstage ?_
      · exact (congrArg Alert.stage e).symm.trans ha
      · exact (congrArg Alert.stage e).symm.trans hb

theorem Interchangeable.settled : (settled stored a).SameEvidence (Alert.settled stored b) :=
  (settled_sameEvidence_absorb stored a).trans <|
    (h.evidence.absorb (h.bothRuntime stored)).trans (settled_sameEvidence_absorb stored b).symm

end Interchangeable

end Alert

namespace Plan

/-! ## 2. Batches and records in another order -/

/-- Whether any two findings of one key can be joined, as both are of runtime. -/
def Joinable (batch : List Alert) : Prop :=
  (findings batch).Pairwise fun a b => a.key = b.key → Alert.bothRuntime a b = true

/-- A batch that can be joined and records of different keys, and both of them shuffled. -/
structure Shuffled (batch records batch' records' : List Alert) : Prop where
  joinable : Joinable batch
  distinct : (records.map (·.key)).Nodup
  batch : batch.Perm batch'
  records : records.Perm records'

/-- The findings of a key are one alert, or all of runtime. -/
theorem Joinable.withKey_cases {batch : List Alert} (h : Joinable batch) (k : Key) :
    (∃ a, withKey k (findings batch) = [a]) ∨
      ∀ a ∈ findings batch, a.key = k → a.stage = .runtime := by
  have hpairs : (withKey k (findings batch)).Pairwise fun a b => Alert.bothRuntime a b = true := by
    refine (List.Pairwise.filter _ h).imp_of_mem fun ha hb hab => hab ?_
    exact (mem_withKey.mp ha).2.trans (mem_withKey.mp hb).2.symm
  cases hw : withKey k (findings batch) with
  | nil =>
    refine .inr fun a ha hk => ?_
    have hmem : a ∈ withKey k (findings batch) := mem_withKey.mpr ⟨ha, hk⟩
    rw [hw] at hmem
    cases hmem
  | cons b rest =>
    rw [hw, List.pairwise_cons] at hpairs
    cases rest with
    | nil => exact .inl ⟨b, rfl⟩
    | cons c rest =>
      refine .inr fun a ha hk => ?_
      have hmem : a ∈ b :: c :: rest := hw ▸ mem_withKey.mpr ⟨ha, hk⟩
      rcases List.mem_cons.mp hmem with rfl | hmem
      · exact (Alert.bothRuntime_iff.mp (hpairs.1 c List.mem_cons_self)).1
      · exact (Alert.bothRuntime_iff.mp (hpairs.1 a hmem)).2

/-- Of records of different keys, each stands for its own. -/
theorem standing?_eq_some_iff_of_nodup {records : List Alert}
    (hn : (records.map (·.key)).Nodup) {k : Key} {r : Alert} :
    standing? records k = some r ↔ r ∈ records ∧ r.key = k := by
  constructor
  · intro h
    exact ⟨List.mem_of_find?_eq_some h, key_of_standing? h⟩
  · rintro ⟨hr, rfl⟩
    cases h : standing? records r.key with
    | none =>
      have hne := List.find?_eq_none.mp h r hr
      simp at hne
    | some b =>
      rw [List.inj_on_of_nodup_map hn (List.mem_of_find?_eq_some h) hr (key_of_standing? h)]

theorem superseded_of_nodup {records : List Alert} (hn : (records.map (·.key)).Nodup) :
    superseded records = [] := by
  refine List.eq_nil_iff_forall_not_mem.mpr fun r hr => ?_
  obtain ⟨hmem, hne⟩ := (mem_superseded hn.of_map).mp hr
  exact hne ((standing?_eq_some_iff_of_nodup hn).mpr ⟨hmem, rfl⟩)

namespace Shuffled

variable {batch records batch' records' : List Alert}
  (h : Shuffled batch records batch' records')
include h

theorem findings : (Plan.findings batch).Perm (Plan.findings batch') := h.batch.filter _

theorem symm : Shuffled batch' records' batch records where
  joinable := h.findings.pairwise h.joinable fun hab e => Alert.bothRuntime_comm _ _ ▸ hab e.symm
  distinct := (h.records.map _).nodup h.distinct
  batch := h.batch.symm
  records := h.records.symm

/-- Every finding goes into the detection for its key. -/
theorem goesIn {a : Alert} (ha : a ∈ Plan.findings batch) : GoesIn batch a := by
  obtain ⟨b, hb⟩ : ∃ b, first? batch a.key = some b := by
    refine Option.isSome_iff_exists.mp (List.find?_isSome.mpr ⟨a, ha, by simp⟩)
  refine ⟨b, hb, ?_⟩
  have hmem : b ∈ Plan.findings batch := List.mem_of_find?_eq_some hb
  have hkey : b.key = a.key := by simpa using List.find?_some hb
  rcases h.joinable.withKey_cases a.key with ⟨c, hc⟩ | hruntime
  · have hself : ∀ d ∈ Plan.findings batch, d.key = a.key → d = c := by
      intro d hd hk
      simpa [hc] using mem_withKey.mpr ⟨hd, hk⟩
    exact .inl ((hself a ha rfl).trans (hself b hmem hkey).symm)
  · exact .inr (Alert.bothRuntime_iff.mpr ⟨hruntime a ha rfl, hruntime b hmem hkey⟩)

/-- A detection has the evidence of all findings of its key. This holds of either list of
evidence. -/
theorem mem_evidence_iff {α : Type} {evidence : Alert → List α}
    (hjoined : ∀ {older newer : Alert} {x : α}, x ∈ evidence (older.absorb newer) ↔
      x ∈ evidence newer ∨ older.bothRuntime newer = true ∧ x ∈ evidence older)
    {k : Key} {d : Alert} (hd : detection? batch k = some d) {x : α} :
    x ∈ evidence d ↔ ∃ a ∈ Plan.findings batch, a.key = k ∧ x ∈ evidence a := by
  rw [mem_detection? hjoined hd]
  constructor
  · rintro ⟨a, ha, hk, _, hx⟩
    exact ⟨a, ha, hk, hx⟩
  · rintro ⟨a, ha, hk, hx⟩
    exact ⟨a, ha, hk, h.goesIn ha, hx⟩

theorem sameEvidence_of_detection? {k : Key} {d d' : Alert} (hd : detection? batch k = some d)
    (hd' : detection? batch' k = some d') : d.SameEvidence d' where
  violations v := by
    rw [h.mem_evidence_iff Alert.mem_violations_absorb hd,
      h.symm.mem_evidence_iff Alert.mem_violations_absorb hd']
    simp only [h.findings.mem_iff]
  processes p := by
    rw [h.mem_evidence_iff Alert.mem_processes_absorb hd,
      h.symm.mem_evidence_iff Alert.mem_processes_absorb hd']
    simp only [h.findings.mem_iff]

/-- **The detections for a key** are interchangeable. -/
theorem exists_detection? {k : Key} {d : Alert} (hd : detection? batch k = some d) :
    ∃ d', detection? batch' k = some d' ∧ d.Interchangeable d' := by
  obtain ⟨d', hd'⟩ : ∃ d', detection? batch' k = some d' := by
    obtain ⟨a, ha, hk⟩ := detects_of_detection? hd
    exact detection?_of_detects ⟨a, h.findings.mem_iff.mp ha, hk⟩
  refine ⟨d', hd', h.sameEvidence_of_detection? hd hd', ?_⟩
  rcases h.joinable.withKey_cases k with ⟨a, ha⟩ | hruntime
  · have ha' : withKey k (Plan.findings batch') = [a] :=
      List.perm_singleton.mp (ha ▸ (h.findings.filter _).symm)
    rw [detection?, ha] at hd
    rw [detection?, ha'] at hd'
    exact .inl (Option.some.inj (hd.symm.trans hd'))
  · obtain ⟨a, ha, hka, hbare⟩ := exists_of_detection? hd
    obtain ⟨a', ha', hka', hbare'⟩ := exists_of_detection? hd'
    refine .inr (Alert.bothRuntime_iff.mpr ⟨?_, ?_⟩)
    · exact (Alert.stage_eq_of_bare hbare).trans (hruntime a ha hka)
    · exact (Alert.stage_eq_of_bare hbare').trans
        (hruntime a' (h.findings.mem_iff.mpr ha') hka')

theorem standing?_eq (k : Key) : standing? records k = standing? records' k := by
  refine Option.ext fun r => ?_
  rw [standing?_eq_some_iff_of_nodup h.distinct, standing?_eq_some_iff_of_nodup h.symm.distinct,
    h.records.mem_iff]

/-! ## 3. The lists of the plan -/

theorem keys_findings_eq : keys (Plan.findings batch) = keys (Plan.findings batch') :=
  Ascending.ofList_eq_of_mem_iff fun _ => (h.findings.map _).mem_iff

theorem isSome_new? {k : Key} (hnew : (new? batch records k).isSome = true) :
    (new? batch' records' k).isSome = true := by
  obtain ⟨d, hd⟩ := Option.isSome_iff_exists.mp hnew
  obtain ⟨hd, hr⟩ := new?_eq_some_iff.mp hd
  obtain ⟨d', hd', _⟩ := h.exists_detection? hd
  rw [h.standing?_eq] at hr
  exact Option.isSome_iff_exists.mpr ⟨d', new?_eq_some_iff.mpr ⟨hd', hr⟩⟩

theorem isSome_updated? {k : Key} (hupdated : (updated? batch records k).isSome = true) :
    (updated? batch' records' k).isSome = true := by
  obtain ⟨a, ha⟩ := Option.isSome_iff_exists.mp hupdated
  obtain ⟨d, r, hd, hr, hs⟩ := updated?_eq_some_iff.mp ha
  obtain ⟨d', hd', halike⟩ := h.exists_detection? hd
  rw [h.standing?_eq] at hr
  cases hs' : Alert.succeed r d' with
  | none =>
    rw [(halike.succeed_eq_none_iff r).mpr hs'] at hs
    cases hs
  | some a' =>
    exact Option.isSome_iff_exists.mpr ⟨a', updated?_eq_some_iff.mpr ⟨d', r, hd', hr, hs'⟩⟩

theorem isUnchanged {k : Key} (hunchanged : isUnchanged batch records k = true) :
    Plan.isUnchanged batch' records' k = true := by
  obtain ⟨d, r, hd, hr, hs⟩ := isUnchanged_iff.mp hunchanged
  obtain ⟨d', hd', halike⟩ := h.exists_detection? hd
  rw [h.standing?_eq] at hr
  exact isUnchanged_iff.mpr ⟨d', r, hd', hr, (halike.succeed_eq_none_iff r).mp hs⟩

theorem stale?_eq (k : Key) : stale? batch records k = stale? batch' records' k := by
  have hnone : detection? batch k = none ↔ detection? batch' k = none := by
    rw [detection?_eq_none_iff, detection?_eq_none_iff, Detects, Detects]
    simp only [h.findings.mem_iff]
  refine Option.ext fun r => ?_
  rw [stale?_eq_some_iff, stale?_eq_some_iff, hnone, h.standing?_eq]

end Shuffled

/-- Two plans that do the same, but for the order of the evidence and of attempted enforcements. -/
structure Alike (p p' : Plan) : Prop where
  new : (findings p.new).map (·.key) = (findings p'.new).map (·.key)
  updated : p.updated.map (·.key) = p'.updated.map (·.key)
  unchanged : p.unchanged = p'.unchanged
  stale : p.stale = p'.stale
  attempted : (attempted p.new).Perm (attempted p'.new)
  evidence_new : ∀ a ∈ findings p.new, ∀ a' ∈ findings p'.new, a.key = a'.key → a.SameEvidence a'
  evidence_updated : ∀ a ∈ p.updated, ∀ a' ∈ p'.updated, a.key = a'.key → a.SameEvidence a'

/-- **A plan does not depend on the order** of alerts that can be joined, nor on that of records of
different keys. -/
theorem alike_of_shuffled {batch records batch' records' : List Alert}
    (h : Shuffled batch records batch' records') :
    Alike (Plan.of batch records) (Plan.of batch' records') where
  new := by
    rw [keys_new, keys_new, h.keys_findings_eq]
    exact List.filter_congr fun k _ => Bool.eq_iff_iff.mpr ⟨h.isSome_new?, h.symm.isSome_new?⟩
  updated := by
    rw [keys_updated, keys_updated, h.keys_findings_eq]
    exact List.filter_congr fun k _ =>
      Bool.eq_iff_iff.mpr ⟨h.isSome_updated?, h.symm.isSome_updated?⟩
  unchanged := by
    show (keys (findings batch)).filter _ = (keys (findings batch')).filter _
    rw [h.keys_findings_eq]
    exact List.filter_congr fun k _ => Bool.eq_iff_iff.mpr ⟨h.isUnchanged, h.symm.isUnchanged⟩
  stale := by
    have hkeys : keys records = keys records' :=
      Ascending.ofList_eq_of_mem_iff fun _ => (h.records.map _).mem_iff
    show (keys records).filterMap _ ++ superseded records =
      (keys records').filterMap _ ++ superseded records'
    rw [superseded_of_nodup h.distinct, superseded_of_nodup h.symm.distinct, hkeys]
    exact congrArg (· ++ []) (List.filterMap_congr fun k _ => h.stale?_eq k)
  attempted := by
    rw [attempted_new, attempted_new]
    exact h.batch.filter _
  evidence_new a ha a' ha' hkey := by
    obtain ⟨k, hd, _⟩ := mem_findings_new_iff.mp ha
    obtain ⟨k', hd', _⟩ := mem_findings_new_iff.mp ha'
    rw [key_of_detection? hd, key_of_detection? hd'] at hkey
    subst hkey
    exact h.sameEvidence_of_detection? hd hd'
  evidence_updated a ha a' ha' hkey := by
    obtain ⟨k, d, r, hd, hr, hs⟩ := mem_updated_iff.mp ha
    obtain ⟨k', d', r', hd', hr', hs'⟩ := mem_updated_iff.mp ha'
    rw [Alert.key_of_succeed hs, Alert.key_of_succeed hs', key_of_detection? hd,
      key_of_detection? hd'] at hkey
    subst hkey
    obtain ⟨d'', hd'', halike⟩ := h.exists_detection? hd
    obtain rfl : d'' = d' := Option.some.inj (hd''.symm.trans hd')
    rw [h.standing?_eq] at hr
    obtain rfl : r = r' := Option.some.inj (hr.symm.trans hr')
    rw [← Alert.settled_of_succeed hs, ← Alert.settled_of_succeed hs']
    exact halike.settled r

/-! A batch with two runtime alerts of one key and an alert of another, beside a record of the first
key and one that is gone; and both in another order. -/

/-- The batch. -/
def foundInOrder : List Alert :=
  [foundAt .runtime "first", Alert.raised "" "net" .deploy 3, foundAt .runtime "second"]

/-- The batch in another order. -/
def foundShuffled : List Alert :=
  [foundAt .runtime "second", foundAt .runtime "first", Alert.raised "" "net" .deploy 3]

/-- The records. -/
def keptInOrder : List Alert := [Alert.shellTwice, Alert.raised "b" "disk" .build 2]

/-- The records in another order. -/
def keptShuffled : List Alert := [Alert.raised "b" "disk" .build 2, Alert.shellTwice]

/-- Both orders make plans that are alike. -/
theorem alike_of_shuffled_found : Shuffled foundInOrder keptInOrder foundShuffled keptShuffled ∧
    Alike (Plan.of foundInOrder keptInOrder) (Plan.of foundShuffled keptShuffled) := by
  have h : Shuffled foundInOrder keptInOrder foundShuffled keptShuffled :=
    { joinable := by unfold Joinable; decide
      distinct := by decide
      batch := by decide
      records := .swap _ _ _ }
  exact ⟨h, alike_of_shuffled h⟩

end Plan

end AlertLedger
