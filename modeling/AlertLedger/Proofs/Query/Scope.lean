import AlertLedger.Query.Basic

/-!
# The scope of a pass

Filters narrow the active records and never let another state in: `status_of_isMatch_inScope`.
Where none of them looks at stages, whether an active record is in scope depends on its key alone
(`isMatch_inScope_of_key_eq`).
-/

namespace AlertLedger

/-- Whether a filter looks at the stage of a record. -/
def ScopeFilter.isOfStage : ScopeFilter → Bool
  | .stage _ => true
  | .notStage _ => true
  | _ => false

namespace Query

@[simp] theorem statuses_narrow (q : Query) (f : ScopeFilter) :
    (q.narrow f).statuses = q.statuses := by
  cases f <;> rfl

theorem statuses_narrowAll (fs : List ScopeFilter) (q : Query) :
    (q.narrowAll fs).statuses = q.statuses := by
  induction fs generalizing q with
  | nil => rfl
  | cons f fs ih => exact (ih (q.narrow f)).trans (statuses_narrow q f)

theorem statuses_inScope (fs : List ScopeFilter) : (inScope fs).statuses = [.active] :=
  statuses_narrowAll fs active

/-- **Whatever the filters are, what is in scope is active.** -/
theorem status_of_isMatch_inScope {fs : List ScopeFilter} {a : Alert}
    (h : (inScope fs).isMatch a = true) : a.status = .active := by
  simp only [isMatch, Bool.and_eq_true, admitsAmong, statuses_inScope] at h
  simpa using h.1.1.1.1

theorem not_isMatch_inScope (fs : List ScopeFilter) {a : Alert} (h : a.status ≠ .active) :
    (inScope fs).isMatch a = false :=
  Bool.eq_false_iff.mpr fun hq => h (status_of_isMatch_inScope hq)

theorem not_attempted_of_isMatch_inScope {fs : List ScopeFilter} {a : Alert}
    (h : (inScope fs).isMatch a = true) : a.status ≠ .attempted := by
  rw [status_of_isMatch_inScope h]
  decide

theorem stages_narrowAll {fs : List ScopeFilter} (h : ∀ f ∈ fs, f.isOfStage = false) (q : Query) :
    (q.narrowAll fs).stages = q.stages ∧ (q.narrowAll fs).excludedStages = q.excludedStages := by
  induction fs generalizing q with
  | nil => exact ⟨rfl, rfl⟩
  | cons f fs ih =>
    obtain ⟨hs, he⟩ := ih (fun g hg => h g (List.mem_cons_of_mem f hg)) (q.narrow f)
    have hf := h f List.mem_cons_self
    have hnarrow : (q.narrow f).stages = q.stages ∧
        (q.narrow f).excludedStages = q.excludedStages := by
      cases f with
      | policy id => exact ⟨rfl, rfl⟩
      | entity id => exact ⟨rfl, rfl⟩
      | stage s => cases hf
      | notStage s => cases hf
    exact ⟨hs.trans hnarrow.1, he.trans hnarrow.2⟩

/-- **Without filters on stages the scope is a matter of the key.** -/
theorem isMatch_inScope_of_key_eq {fs : List ScopeFilter} (hfs : ∀ f ∈ fs, f.isOfStage = false)
    {a b : Alert} (ha : a.status = .active) (hb : (inScope fs).isMatch b = true)
    (h : a.key = b.key) : (inScope fs).isMatch a = true := by
  obtain ⟨hstages, hexcluded⟩ := stages_narrowAll hfs active
  have hstatus := status_of_isMatch_inScope hb
  have hpolicy : a.policy.id = b.policy.id := congrArg Key.policy h
  have hentity : a.entity.id = b.entity.id := congrArg Key.entity h
  simp only [isMatch, Bool.and_eq_true] at hb ⊢
  rw [ha, ← hstatus, hpolicy, hentity]
  refine ⟨⟨hb.1.1, ?_⟩, ?_⟩
  · rw [inScope, hstages]
    rfl
  · rw [inScope, hexcluded]
    rfl

end Query

end AlertLedger
