import AlertLedger.Proofs.Alert.Succession

/-!
# Evidence that one alert has of another

Alerts are compared by the evidence on them, order and repetitions aside: one has all that another
has (`CarriedBy`), or both have the same (`SameEvidence`). What the operations on evidence do is
said in these terms:

* `mem_foldl_absorb`: what an alert has after others have been joined into it;
* `tellsNews_eq_false_iff`: runtime alerts tell each other nothing new exactly where they have the
  same evidence;
* `succeed_eq_none_iff`: when no record succeeds a stored one;
* `settled_sameEvidence_absorb`: what a record has after a detection, whether it changes or not.
-/

namespace AlertLedger

theorem hasFresh_eq_false_iff {α : Type} [Evidence α] {older newer : List α} :
    hasFresh older newer = false ↔ ∀ x ∈ newer, x ∈ older := by
  simp [hasFresh]

namespace Alert

/-! ## 1. Comparing alerts by their evidence -/

/-- All evidence of one record is on another too. -/
structure CarriedBy (r r' : Alert) : Prop where
  violations : r.violations ⊆ r'.violations
  processes : r.processes ⊆ r'.processes

theorem CarriedBy.refl (r : Alert) : r.CarriedBy r := ⟨List.Subset.refl _, List.Subset.refl _⟩

theorem CarriedBy.trans {q r t : Alert} (h : q.CarriedBy r) (h' : r.CarriedBy t) :
    q.CarriedBy t where
  violations := List.Subset.trans h.violations h'.violations
  processes := List.Subset.trans h.processes h'.processes

/-- Two alerts have the same violations and the same process indicators. -/
structure SameEvidence (a b : Alert) : Prop where
  violations : ∀ v, v ∈ a.violations ↔ v ∈ b.violations
  processes : ∀ p, p ∈ a.processes ↔ p ∈ b.processes

theorem SameEvidence.refl (a : Alert) : a.SameEvidence a := ⟨fun _ => .rfl, fun _ => .rfl⟩

theorem SameEvidence.symm {a b : Alert} (h : a.SameEvidence b) : b.SameEvidence a :=
  ⟨fun v => (h.violations v).symm, fun p => (h.processes p).symm⟩

theorem SameEvidence.trans {a b c : Alert} (h : a.SameEvidence b) (h' : b.SameEvidence c) :
    a.SameEvidence c :=
  ⟨fun v => (h.violations v).trans (h'.violations v),
    fun p => (h.processes p).trans (h'.processes p)⟩

theorem sameEvidence_iff {a b : Alert} : a.SameEvidence b ↔ a.CarriedBy b ∧ b.CarriedBy a := by
  constructor
  · intro h
    exact ⟨⟨fun v => (h.violations v).mp, fun p => (h.processes p).mp⟩,
      ⟨fun v => (h.violations v).mpr, fun p => (h.processes p).mpr⟩⟩
  · intro h
    exact ⟨fun v => ⟨@(h.1).violations v, @(h.2).violations v⟩,
      fun p => ⟨@(h.1).processes p, @(h.2).processes p⟩⟩

/-- Its identity has no part in the evidence of an alert. -/
theorem underIdentityOf_sameEvidence (stored a : Alert) :
    (underIdentityOf stored a).SameEvidence a :=
  ⟨fun _ => .rfl, fun _ => .rfl⟩

/-! ## 2. Joined alerts -/

theorem mem_violations_absorb {older newer : Alert} {v : Violation} :
    v ∈ (absorb older newer).violations ↔
      v ∈ newer.violations ∨ bothRuntime older newer = true ∧ v ∈ older.violations := by
  cases h : bothRuntime older newer with
  | false => simp [absorb_of_not_bothRuntime h]
  | true =>
    rw [violations_absorb h, mem_append_carried]
    simp

theorem mem_processes_absorb {older newer : Alert} {p : ProcessSighting} :
    p ∈ (absorb older newer).processes ↔
      p ∈ newer.processes ∨ bothRuntime older newer = true ∧ p ∈ older.processes := by
  cases h : bothRuntime older newer with
  | false => simp [absorb_of_not_bothRuntime h]
  | true =>
    rw [processes_absorb h, mem_append_carried]
    simp

theorem carriedBy_absorb (older newer : Alert) : newer.CarriedBy (absorb older newer) :=
  ⟨fun _ hv => mem_violations_absorb.mpr (.inl hv), fun _ hp => mem_processes_absorb.mpr (.inl hp)⟩

/-- Detections with the same evidence have the same evidence when one alert is joined into both. -/
theorem SameEvidence.absorb {a b : Alert} (h : a.SameEvidence b) {older : Alert}
    (hb : bothRuntime older a = bothRuntime older b) :
    (Alert.absorb older a).SameEvidence (Alert.absorb older b) where
  violations v := by rw [mem_violations_absorb, mem_violations_absorb, h.violations, hb]
  processes p := by rw [mem_processes_absorb, mem_processes_absorb, h.processes, hb]

theorem bothRuntime_comm (a b : Alert) : bothRuntime a b = bothRuntime b a :=
  Bool.and_comm _ _

/-- Whether an alert can be joined does not depend on what has been joined into the other. -/
theorem bothRuntime_absorb (c older newer : Alert) :
    bothRuntime c (absorb older newer) = bothRuntime c newer := by
  rw [bothRuntime, bothRuntime, isRuntime, isRuntime, isRuntime,
    stage_eq_of_bare (bare_absorb older newer)]

/-- **What an alert has after others have been joined into it**: its own evidence, and if it was
raised at runtime, that of the others raised at runtime. This holds of either list of evidence. -/
theorem mem_foldl_absorb {α : Type} {evidence : Alert → List α}
    (hjoined : ∀ {older newer : Alert} {x : α}, x ∈ evidence (absorb older newer) ↔
      x ∈ evidence newer ∨ bothRuntime older newer = true ∧ x ∈ evidence older)
    {as : List Alert} {a : Alert} {x : α} :
    x ∈ evidence (as.foldl (fun kept later => later.absorb kept) a) ↔
      x ∈ evidence a ∨ ∃ b ∈ as, bothRuntime b a = true ∧ x ∈ evidence b := by
  induction as generalizing a with
  | nil => simp
  | cons b as ih =>
    rw [List.foldl_cons, ih, hjoined, or_assoc]
    simp only [bothRuntime_absorb, List.mem_cons, exists_eq_or_imp]

/-! ## 3. Detections that change nothing -/

/-- **Runtime alerts tell nothing new** exactly where they have the same evidence. -/
theorem tellsNews_eq_false_iff {stored detected : Alert} (h : bothRuntime stored detected = true) :
    tellsNews stored detected = false ↔ stored.SameEvidence detected := by
  rw [sameEvidence_iff]
  simp only [tellsNews, h, Bool.true_and, Bool.or_eq_false_iff, hasFresh_eq_false_iff,
    decide_eq_false_iff_not, ne_eq, Decidable.not_not, carried_eq_nil]
  constructor
  · intro hsame
    obtain ⟨⟨⟨hfp, hfv⟩, hcp⟩, hcv⟩ := hsame
    exact ⟨⟨hcv, hcp⟩, ⟨hfv, hfp⟩⟩
  · intro hsame
    obtain ⟨hs, hd⟩ := hsame
    exact ⟨⟨⟨hd.processes, hd.violations⟩, hs.processes⟩, hs.violations⟩

/-- **No record succeeds a stored one** where both are of runtime and have the same evidence, or
where the detection is the stored record but for its identity. -/
theorem succeed_eq_none_iff {stored detected : Alert} :
    succeed stored detected = none ↔
      if bothRuntime stored detected = true then stored.SameEvidence detected
      else underIdentityOf stored detected = stored := by
  unfold succeed
  split
  · rename_i hb
    rw [← tellsNews_eq_false_iff hb]
    cases tellsNews stored detected <;> simp
  · simp only
    split <;> simp_all

/-- **What a record comes to** has the evidence of the record and the detection joined, also where
it stays as it is. -/
theorem settled_sameEvidence_absorb (stored detected : Alert) :
    (settled stored detected).SameEvidence (absorb stored detected) := by
  cases hb : bothRuntime stored detected with
  | false =>
    rw [settled_of_not_bothRuntime hb, absorb_of_not_bothRuntime hb]
    exact underIdentityOf_sameEvidence stored detected
  | true =>
    cases ht : tellsNews stored detected with
    | false =>
      rw [settled_of_not_tellsNews hb ht]
      have h := (tellsNews_eq_false_iff hb).mp ht
      constructor
      · intro v
        rw [mem_violations_absorb, ← h.violations]
        simp
      · intro p
        rw [mem_processes_absorb, ← h.processes]
        simp
    | true =>
      rw [settled_of_tellsNews ht]
      exact underIdentityOf_sameEvidence stored (absorb stored detected)

/-- A record has the evidence of a detection once it has settled. -/
theorem detected_carriedBy_settled (stored detected : Alert) :
    detected.CarriedBy (settled stored detected) :=
  (carriedBy_absorb stored detected).trans
    (sameEvidence_iff.mp (settled_sameEvidence_absorb stored detected)).2

end Alert

end AlertLedger
