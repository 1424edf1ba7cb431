import AlertLedger.Proofs.Alert.Succession
import AlertLedger.Proofs.Store.Listing

/-!
# What stands in a plan

Membership in the lists of a plan, each in terms of the detection for a key and the record
that stands for it:

* `mem_updated_iff`: a record that succeeds a standing one;
* `mem_new_iff`: an attempted alert, or a detection that no record stands for;
* `mem_unchanged_iff`: a key whose record says all already;
* `mem_stale_iff`: a record that does not stand for its key, or whose key is not detected.

A key is detected (`Detects`) when an alert of the batch other than an attempted one has it; the
detection is then that alert but for evidence (`exists_of_detection?`). The lists are made key by
key, so that their keys are the detected ones that a choice leaves (`map_key_filterMap`).
-/

namespace AlertLedger.Plan

/-! ## 1. Detected keys -/

/-- Whether a batch reports a finding: an alert with its key, other than an attempted one. -/
def Detects (batch : List Alert) (k : Key) : Prop := ∃ a ∈ findings batch, a.key = k

instance (batch : List Alert) (k : Key) : Decidable (Detects batch k) :=
  inferInstanceAs (Decidable (∃ a ∈ findings batch, a.key = k))

theorem mem_findings {batch : List Alert} {a : Alert} :
    a ∈ findings batch ↔ a ∈ batch ∧ a.status ≠ .attempted := by
  simp [findings]

theorem mem_attempted {batch : List Alert} {a : Alert} :
    a ∈ attempted batch ↔ a ∈ batch ∧ a.status = .attempted := by
  simp [attempted]

/-- A list of attempted enforcements and of findings, without the former. -/
theorem filter_not_attempted {as bs : List Alert} (has : ∀ a ∈ as, a.status = .attempted)
    (hbs : ∀ b ∈ bs, b.status ≠ .attempted) : (as ++ bs).filter (·.status ≠ .attempted) = bs := by
  rw [List.filter_append, List.filter_eq_nil_iff.mpr, List.nil_append, List.filter_eq_self]
  · simpa using hbs
  · simpa using has

theorem mem_keys {as : List Alert} {k : Key} : k ∈ keys as ↔ ∃ a ∈ as, a.key = k := by
  simp [keys]

theorem detection?_eq_none_iff {batch : List Alert} {k : Key} :
    detection? batch k = none ↔ ¬ Detects batch k := by
  have hnil : detection? batch k = none ↔ withKey k (findings batch) = [] := by
    unfold detection?
    cases withKey k (findings batch) <;> simp [foldDetections]
  rw [hnil, withKey, List.filter_eq_nil_iff]
  simp [Detects]

/-- **The detection for a key is an alert of the batch with the key**, but for its evidence. -/
theorem exists_of_detection? {batch : List Alert} {k : Key} {d : Alert}
    (h : detection? batch k = some d) : ∃ a ∈ findings batch, a.key = k ∧ d.bare = a.bare := by
  unfold detection? at h
  cases hw : withKey k (findings batch) with
  | nil =>
    rw [hw] at h
    cases h
  | cons a rest =>
    rw [hw] at h
    have ha : a ∈ withKey k (findings batch) := hw ▸ List.mem_cons_self
    rw [withKey, List.mem_filter, decide_eq_true_eq] at ha
    refine ⟨a, ha.1, ha.2, ?_⟩
    rw [← Option.some.inj h]
    exact Alert.bare_foldl_absorb rest a

theorem status_of_detection? {batch : List Alert} {k : Key} {d : Alert}
    (h : detection? batch k = some d) : d.status ≠ .attempted := by
  obtain ⟨a, ha, _, hbare⟩ := exists_of_detection? h
  rw [Alert.status_eq_of_bare hbare]
  exact (mem_findings.mp ha).2

theorem detects_of_detection? {batch : List Alert} {k : Key} {d : Alert}
    (h : detection? batch k = some d) : Detects batch k := by
  obtain ⟨a, ha, hk, _⟩ := exists_of_detection? h
  exact ⟨a, ha, hk⟩

theorem detection?_of_detects {batch : List Alert} {k : Key} (h : Detects batch k) :
    ∃ d, detection? batch k = some d := by
  cases hd : detection? batch k with
  | none => exact absurd h (detection?_eq_none_iff.mp hd)
  | some d => exact ⟨d, rfl⟩

theorem mem_keys_findings {batch : List Alert} {k : Key} :
    k ∈ keys (findings batch) ↔ Detects batch k := mem_keys

/-! ## 2. Superseded records -/

theorem key_of_standing? {records : List Alert} {k : Key} {r : Alert}
    (h : standing? records k = some r) : r.key = k := by
  simpa using List.find?_some h

theorem standing?_cons {b : Alert} {rest : List Alert} {k : Key} :
    standing? (b :: rest) k = if b.key = k then some b else standing? rest k := by
  by_cases h : b.key = k <;> simp [standing?, h]

/-- Of records that all differ, those are repeated that have a key seen before, or that follow
another record with their key. -/
theorem mem_repeatedAfter {records : List Alert} (hn : records.Nodup) (seen : List Key)
    {a : Alert} : a ∈ repeatedAfter seen records ↔
      a ∈ records ∧ (a.key ∈ seen ∨ standing? records a.key ≠ some a) := by
  induction records generalizing seen with
  | nil => simp [repeatedAfter]
  | cons b rest ih =>
    obtain ⟨hb, hrest⟩ := List.nodup_cons.mp hn
    rw [standing?_cons]
    by_cases hab : a = b
    · -- no later record equals the first, so it is repeated only through the keys seen before
      subst hab
      unfold repeatedAfter
      split <;> rename_i hseen
      · simp [hseen]
      · simp [ih hrest, hb, hseen]
    · have hmem : a ∈ b :: rest ↔ a ∈ rest := by simp [hab]
      rw [hmem]
      unfold repeatedAfter
      by_cases hk : b.key = a.key
      · have hne : some b ≠ some a := fun e => hab (Option.some.inj e).symm
        rw [if_pos hk]
        split <;> rename_i hseen
        · simp [hab, ih hrest, hne, ← hk, hseen]
        · simp [ih hrest, hne, ← hk]
      · rw [if_neg hk]
        split
        · simp [hab, ih hrest]
        · simp [ih hrest, Ne.symm hk]

theorem mem_superseded {records : List Alert} (hn : records.Nodup) {a : Alert} :
    a ∈ superseded records ↔ a ∈ records ∧ standing? records a.key ≠ some a := by
  rw [superseded, mem_repeatedAfter hn]
  simp

/-! ## 3. The lists of a plan -/

theorem new?_eq_some_iff {batch records : List Alert} {k : Key} {a : Alert} :
    new? batch records k = some a ↔ detection? batch k = some a ∧ standing? records k = none := by
  unfold new? fate?
  cases detection? batch k with
  | none => simp
  | some d =>
    cases standing? records k with
    | none => simp [Fate.of]
    | some r => cases h : Alert.succeed r d <;> simp [Fate.of, h]

theorem updated?_eq_some_iff {batch records : List Alert} {k : Key} {a : Alert} :
    updated? batch records k = some a ↔ ∃ d r, detection? batch k = some d ∧
      standing? records k = some r ∧ Alert.succeed r d = some a := by
  unfold updated? fate?
  cases detection? batch k with
  | none => simp
  | some d =>
    cases standing? records k with
    | none => simp [Fate.of]
    | some r => cases h : Alert.succeed r d <;> simp [Fate.of, h]

theorem isUnchanged_iff {batch records : List Alert} {k : Key} :
    isUnchanged batch records k = true ↔ ∃ d r, detection? batch k = some d ∧
      standing? records k = some r ∧ Alert.succeed r d = none := by
  unfold isUnchanged fate?
  cases detection? batch k with
  | none => simp
  | some d =>
    cases standing? records k with
    | none => simp [Fate.of]
    | some r => cases h : Alert.succeed r d <;> simp [Fate.of, h]

theorem stale?_eq_some_iff {batch records : List Alert} {k : Key} {a : Alert} :
    stale? batch records k = some a ↔ detection? batch k = none ∧ standing? records k = some a := by
  unfold stale?
  cases detection? batch k <;> simp

/-- **What is updated** is what succeeds the record that stands for a detected key. -/
theorem mem_updated_iff {batch records : List Alert} {a : Alert} :
    a ∈ (Plan.of batch records).updated ↔ ∃ k d r, detection? batch k = some d ∧
      standing? records k = some r ∧ Alert.succeed r d = some a := by
  simp only [Plan.of, List.mem_filterMap, updated?_eq_some_iff]
  constructor
  · rintro ⟨k, _, h⟩
    exact ⟨k, h⟩
  · rintro ⟨k, d, r, hd, h⟩
    exact ⟨k, mem_keys_findings.mpr (detects_of_detection? hd), d, r, hd, h⟩

/-- **What is new** is an attempted alert, or a detection for a key that no record stands for. -/
theorem mem_new_iff {batch records : List Alert} {a : Alert} :
    a ∈ (Plan.of batch records).new ↔
      (a ∈ batch ∧ a.status = .attempted) ∨
        ∃ k, detection? batch k = some a ∧ standing? records k = none := by
  simp only [Plan.of, List.mem_append, mem_attempted, List.mem_filterMap, new?_eq_some_iff]
  refine or_congr_right ⟨?_, ?_⟩
  · rintro ⟨k, _, h⟩
    exact ⟨k, h⟩
  · rintro ⟨k, hd, h⟩
    exact ⟨k, mem_keys_findings.mpr (detects_of_detection? hd), hd, h⟩

/-- What is new beside attempted enforcements. -/
theorem mem_findings_new_iff {batch records : List Alert} {a : Alert} :
    a ∈ findings (Plan.of batch records).new ↔
      ∃ k, detection? batch k = some a ∧ standing? records k = none := by
  rw [mem_findings, mem_new_iff]
  constructor
  · rintro ⟨⟨_, hs⟩ | h, hne⟩
    · exact absurd hs hne
    · exact h
  · rintro ⟨k, hd, hr⟩
    exact ⟨.inr ⟨k, hd, hr⟩, status_of_detection? hd⟩

/-- **What is unchanged** is a key that is detected, and whose record no other succeeds. -/
theorem mem_unchanged_iff {batch records : List Alert} {k : Key} :
    k ∈ (Plan.of batch records).unchanged ↔ ∃ d r, detection? batch k = some d ∧
      standing? records k = some r ∧ Alert.succeed r d = none := by
  simp only [Plan.of, List.mem_filter, mem_keys_findings, isUnchanged_iff]
  constructor
  · rintro ⟨_, h⟩
    exact h
  · rintro ⟨d, r, hd, h⟩
    exact ⟨detects_of_detection? hd, d, r, hd, h⟩

/-- **What is stale** is a record that does not stand for its key, or whose key is not detected. -/
theorem mem_stale_iff {batch records : List Alert} (hn : records.Nodup) {a : Alert} :
    a ∈ (Plan.of batch records).stale ↔
      a ∈ records ∧ (standing? records a.key ≠ some a ∨ ¬ Detects batch a.key) := by
  simp only [Plan.of, List.mem_append, List.mem_filterMap, stale?_eq_some_iff, mem_superseded hn]
  constructor
  · rintro (⟨k, _, hd, hs⟩ | ⟨ha, hs⟩)
    · have hk : a.key = k := by simpa using List.find?_some hs
      exact ⟨List.mem_of_find?_eq_some hs, .inr (hk ▸ detection?_eq_none_iff.mp hd)⟩
    · exact ⟨ha, .inl hs⟩
  · rintro ⟨ha, h⟩
    by_cases hs : standing? records a.key = some a
    · have hd : detection? batch a.key = none :=
        detection?_eq_none_iff.mpr (h.resolve_left (not_not.mpr hs))
      exact .inl ⟨a.key, mem_keys.mpr ⟨a, ha, rfl⟩, hd, hs⟩
    · exact .inr ⟨ha, hs⟩

/-! ## 4. Lists made key by key -/

/-- Where every value is found under its own key, the keys of the values are those that have one. -/
theorem map_key_filterMap {f : Key → Option Alert} (hf : ∀ {k a}, f k = some a → a.key = k)
    (ks : List Key) : (ks.filterMap f).map (·.key) = ks.filter fun k => (f k).isSome := by
  induction ks with
  | nil => rfl
  | cons k ks ih =>
    cases h : f k with
    | none => simp [h, ih]
    | some a => simp [h, hf h, ih]

theorem key_of_new? {batch records : List Alert} {k : Key} {a : Alert}
    (h : new? batch records k = some a) : a.key = k :=
  key_of_detection? (new?_eq_some_iff.mp h).1

theorem key_of_mem_updated? {batch records : List Alert} {k : Key} {a : Alert}
    (h : updated? batch records k = some a) : a.key = k := by
  obtain ⟨d, r, hd, _, hsucceed⟩ := updated?_eq_some_iff.mp h
  rw [Alert.key_of_succeed hsucceed, key_of_detection? hd]

theorem key_of_stale? {batch records : List Alert} {k : Key} {a : Alert}
    (h : stale? batch records k = some a) : a.key = k :=
  key_of_standing? (stale?_eq_some_iff.mp h).2

theorem pairwise_keys (as : List Alert) : (keys as).Pairwise (· < ·) :=
  Ascending.pairwise_ofList _

theorem nodup_of_pairwise_lt {ks : List Key} (h : ks.Pairwise (· < ·)) : ks.Nodup := by
  refine List.Pairwise.imp ?_ h
  rintro k _ hlt rfl
  exact Std.Irrefl.irrefl k hlt

section Keys

variable (batch records : List Alert)

theorem findings_new : findings (Plan.of batch records).new =
    (keys (findings batch)).filterMap (new? batch records) := by
  refine filter_not_attempted (fun a ha => (mem_attempted.mp ha).2) fun a ha => ?_
  obtain ⟨k, _, h⟩ := List.mem_filterMap.mp ha
  exact status_of_detection? (new?_eq_some_iff.mp h).1

theorem attempted_new : attempted (Plan.of batch records).new = attempted batch := by
  show attempted (attempted batch ++ (keys (findings batch)).filterMap (new? batch records)) = _
  rw [← findings_new, attempted, List.filter_append, List.filter_eq_self.mpr,
    List.filter_eq_nil_iff.mpr, List.append_nil]
  · intro a ha
    simpa using (mem_findings.mp ha).2
  · intro a ha
    simpa using (mem_attempted.mp ha).2

theorem keys_new : (findings (Plan.of batch records).new).map (·.key) =
    (keys (findings batch)).filter fun k => (new? batch records k).isSome := by
  rw [findings_new, map_key_filterMap key_of_new?]

theorem keys_updated : (Plan.of batch records).updated.map (·.key) =
    (keys (findings batch)).filter fun k => (updated? batch records k).isSome :=
  map_key_filterMap key_of_mem_updated? _

end Keys

theorem nodup_updated (batch records : List Alert) : (Plan.of batch records).updated.Nodup := by
  refine List.Nodup.of_map (·.key) (nodup_of_pairwise_lt ?_)
  rw [keys_updated]
  exact (pairwise_keys _).filter _

theorem sublist_repeatedAfter (seen : List Key) (records : List Alert) :
    (repeatedAfter seen records).Sublist records := by
  induction records generalizing seen with
  | nil => exact .slnil
  | cons a rest ih =>
    unfold repeatedAfter
    split
    · exact (ih seen).cons_cons a
    · exact (ih _).cons a

theorem nodup_stale (batch : List Alert) {records : List Alert} (hn : records.Nodup) :
    (Plan.of batch records).stale.Nodup := by
  refine List.nodup_append.mpr ⟨?_, (sublist_repeatedAfter [] records).nodup hn, ?_⟩
  · refine List.Nodup.of_map (·.key) (nodup_of_pairwise_lt ?_)
    rw [map_key_filterMap key_of_stale?]
    exact (pairwise_keys records).filter _
  · -- what stands for its key does not come after another record with the key
    rintro a ha b hb rfl
    obtain ⟨k, _, hstale⟩ := List.mem_filterMap.mp ha
    have hstanding := (stale?_eq_some_iff.mp hstale).2
    rw [← key_of_standing? hstanding] at hstanding
    exact ((mem_superseded hn).mp hb).2 hstanding

end AlertLedger.Plan
