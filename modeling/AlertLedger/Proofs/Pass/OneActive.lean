import AlertLedger.Proofs.Pass.PostState

/-!
# One active record for each finding

Whether a pass keeps a store in which no finding has two active records (`OneActive`) depends on
what lies outside its scope, because it looks at the store through its query alone: a finding
detected whose active record is out of scope is new to the pass, and gets a second one. The key of
a finding has no stage, so this is what filters on stages bring about. `oneActive_run_prompt` says
when it happens and that nothing else does any harm; filters on policy and entity never do.
-/

namespace AlertLedger

/-- No finding has two active records. -/
def Store.OneActive (s : Store) : Prop :=
  ∀ a ∈ s.records, ∀ b ∈ s.records, a.status = .active → b.status = .active → a.key = b.key → a = b

namespace Pass

variable {x : Pass} {s : Store} {clock : Call → Instant}

/-- An active record is in scope after the whole plan, or was there before, out of scope. -/
theorem isMatch_or_mem_of_mem_fulfilled (hx : x.Unnamed) (hc : x.Covered) (hf : x.DrawsFresh s)
    {a : Alert} (ha : a ∈ (x.fulfilled s clock).records) (hactive : a.status = .active) :
    (Query.inScope x.filters).isMatch a = true ∨
      (a ∈ s.records ∧ (Query.inScope x.filters).isMatch a = false) := by
  by_cases hq : (Query.inScope x.filters).isMatch a = true
  · exact .inl hq
  · have hq' : (Query.inScope x.filters).isMatch a = false := by simpa using hq
    rcases (mem_fulfilled_iff hx hf).mp ha with ⟨r, hr, rfl⟩ | hcreated
    · rcases afterwards_cases (x := x) clock hr with ⟨_, e⟩ | ⟨_, e⟩ | ⟨d, hstands, hd, _⟩
      · exact .inr ⟨e.symm ▸ hr, hq'⟩
      · -- a record leaves the scope only by being resolved
        rw [e] at hactive
        cases hactive
      · have hk := Plan.detects_of_detection? hd
        exact absurd ((isMatch_afterwards_iff hc hr).mpr ⟨hstands, hk⟩) hq
    · rcases isMatch_of_mem_created hx hc hcreated with hattempted | ⟨hmatch, _⟩
      · rw [hactive] at hattempted
        cases hattempted
      · exact .inl hmatch

/-- **No finding has two active records after the whole plan just if no active record out of scope
is one of a finding detected.** -/
theorem oneActive_fulfilled_iff (clock : Call → Instant) (hx : x.Unnamed) (hc : x.Covered)
    (hf : x.DrawsFresh s) (hone : s.OneActive) :
    (x.fulfilled s clock).OneActive ↔ ∀ a ∈ s.records, a.status = .active →
      Plan.Detects x.batch a.key → (Query.inScope x.filters).isMatch a = true := by
  constructor
  · intro h a ha hactive hk
    by_cases hq : (Query.inScope x.filters).isMatch a = true
    · exact hq
    · -- it stays as it is, beside the record that the finding has in scope
      have hstays : a ∈ (x.fulfilled s clock).records :=
        (mem_fulfilled_iff hx hf).mpr (.inl ⟨a, ha, afterwards_of_not_isMatch (by simpa using hq)⟩)
      obtain ⟨c, hmem, hqc, hkey⟩ := exists_mem_fulfilled clock hx hc hf hk
      rw [h a hstays c hmem hactive (Query.status_of_isMatch_inScope hqc) hkey.symm]
      exact hqc
  · intro h a ha b hb hactive hactive' hkey
    have hmixed : ∀ {c d : Alert}, c ∈ (x.fulfilled s clock).records →
        (Query.inScope x.filters).isMatch c = true → d ∈ s.records → d.status = .active →
          (Query.inScope x.filters).isMatch d = false → c.key ≠ d.key := by
      intro c d hc' hqc hd hd' hqd e
      have hk := detects_of_mem_fulfilled hx hc hf hc' hqc
      rw [h d hd hd' (e ▸ hk)] at hqd
      cases hqd
    rcases isMatch_or_mem_of_mem_fulfilled hx hc hf ha hactive with hqa | ⟨hsa, hqa⟩ <;>
      rcases isMatch_or_mem_of_mem_fulfilled hx hc hf hb hactive' with hqb | ⟨hsb, hqb⟩
    · exact eq_of_key_eq_of_mem_fulfilled hx hc hf ha hqa hb hqb hkey
    · exact absurd hkey (hmixed ha hqa hsb hactive' hqb)
    · exact absurd hkey.symm (hmixed hb hqb hsa hactive hqa)
    · exact hone a hsa b hsb hactive hactive' hkey

/-- Without filters on stages every active record of a finding detected is in scope. -/
theorem isMatch_of_detects (hc : x.Covered) (hfs : ∀ f ∈ x.filters, f.isOfStage = false)
    {a : Alert} (ha : a.status = .active) (hk : Plan.Detects x.batch a.key) :
    (Query.inScope x.filters).isMatch a = true := by
  obtain ⟨d, hd⟩ := Plan.detection?_of_detects hk
  exact Query.isMatch_inScope_of_key_eq hfs ha (isMatch_of_detection? hc hd)
    (Plan.key_of_detection? hd).symm

/-- **A pass keeps one active record for each finding just if every active record of a finding
detected is in its scope**, and so it always does with filters on policy and entity. -/
theorem oneActive_run_prompt (x : Pass) (s : Store) (clock : Call → Instant)
    (notify : Alert → Except NotifyError Unit) (hs : s.denied = false) (hone : s.OneActive)
    (hx : x.Unnamed) (hc : x.Covered) (hf : x.DrawsFresh s) :
    ((x.run (.prompt clock notify) s).final.OneActive ↔
      ∀ a ∈ s.records, a.status = .active → Plan.Detects x.batch a.key →
        (Query.inScope x.filters).isMatch a = true) ∧
    ((∀ f ∈ x.filters, f.isOfStage = false) →
      (x.run (.prompt clock notify) s).final.OneActive) := by
  obtain ⟨calls, report, hrun, _⟩ := run_prompt clock notify hs hx hf
  rw [hrun]
  have hiff := oneActive_fulfilled_iff clock hx hc hf hone
  exact ⟨hiff, fun hfs => hiff.mpr fun a _ ha hk => isMatch_of_detects hc hfs ha hk⟩

/-- A record that was raised on deployment. -/
def deployed : Store where
  records := [.raised "a" "shell" .deploy 1]
  denied := false
  ascending := by decide
  named := by decide

/-- A pass over what was raised at runtime, where the same finding is detected. -/
def atRuntime : Pass :=
  ⟨.zero, .hour 4, tally 'x', [.raised "" "shell" .runtime 3], [.stage .runtime]⟩

/-- A filter on stages hides the active record, and the finding gets a second one. -/
theorem not_oneActive_atRuntime :
    deployed.denied = false ∧ deployed.OneActive ∧ atRuntime.Unnamed ∧ atRuntime.Covered ∧
      atRuntime.DrawsFresh deployed ∧
      ¬ (atRuntime.run (.prompt (fun _ => .hour 4) fun _ => .ok ()) deployed).final.OneActive := by
  have hfresh : atRuntime.DrawsFresh deployed := drawsFresh_of_tally rfl (by decide)
  have hfinal :
      (atRuntime.run (.prompt (fun _ => .hour 4) fun _ => .ok ()) deployed).final.records = [.raised "a" "shell" .deploy 1, .raised "x" "shell" .runtime 3] := by cbv
  refine ⟨rfl, by unfold Store.OneActive; decide, by unfold Unnamed; decide,
    by unfold Covered; decide, hfresh, fun h => ?_⟩
  have e := h (.raised "a" "shell" .deploy 1) (by simp [hfinal]) (.raised "x" "shell" .runtime 3)
    (by simp [hfinal]) rfl rfl rfl
  cases congrArg Alert.stage e

/-- The same pass over all stages writes over the record instead. -/
theorem oneActive_run_everywhere :
    ({ atRuntime with filters := [] }.run (.prompt (fun _ => .hour 4) fun _ => .ok ())
      deployed).final.OneActive :=
  (oneActive_run_prompt { atRuntime with filters := [] } deployed (fun _ => .hour 4)
    (fun _ => .ok ()) rfl (by unfold Store.OneActive; decide) (by unfold Unnamed; decide)
    (by unfold Covered; decide) (drawsFresh_of_tally rfl (by decide))).2 (by decide)

end Pass

end AlertLedger
