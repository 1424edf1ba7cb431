import AlertLedger.Proofs.Query.Scope

/-!
# What a list of filters means

A query is narrowed by one filter after the other, and the filters treat its fields in two ways.
The last one on policies or on entities replaces what those before it asked for (`last_of_foldl`);
those on stages are collected (`mem_of_foldl`). So the scope of a whole list can be said without the
query (`ScopeFilter.InScope`, `isMatch_inScope_iff`), and which filters stand next to which does not
matter (`isMatch_inScope_eq`). Main statement: `filters_narrow`.
-/

namespace AlertLedger

/-! ## 1. Fields of a fold -/

section Folds

variable {σ α β : Type} {step : σ → α → σ}

/-- A field that some steps replace has, in the end, what the last of them put there. -/
theorem last_of_foldl {field : σ → Option β} {put : α → Option β}
    (hstep : ∀ s a, field (step s a) = (put a).or (field s)) (as : List α) (s : σ) :
    field (as.foldl step s) = (as.filterMap put).getLast?.or (field s) := by
  induction as generalizing s with
  | nil => rfl
  | cons a as ih =>
    rw [List.foldl_cons, ih, hstep, List.filterMap_cons]
    cases put a with
    | none => rfl
    | some b =>
      rw [List.getLast?_cons]
      cases (as.filterMap put).getLast? <;> rfl

/-- A field that one kind of step adds a value to has it, in the end, if there was such a step or
the field had it before. -/
theorem mem_of_foldl {field : σ → List β} {a : α} {b : β}
    (hstep : ∀ s c, b ∈ field (step s c) ↔ b ∈ field s ∨ c = a) (as : List α) (s : σ) :
    b ∈ field (as.foldl step s) ↔ b ∈ field s ∨ a ∈ as := by
  induction as generalizing s with
  | nil => simp
  | cons c as ih =>
    rw [List.foldl_cons, ih, hstep, List.mem_cons, or_assoc, eq_comm]

end Folds

/-! ## 2. The fields of a narrowed query -/

namespace ScopeFilter

/-- The policy that a filter asks for, if it is a filter on policies. -/
def policy? : ScopeFilter → Option String
  | .policy id => some id
  | _ => none

/-- The entity that a filter asks for, if it is a filter on entities. -/
def entity? : ScopeFilter → Option String
  | .entity id => some id
  | _ => none

end ScopeFilter

namespace Query

open ScopeFilter

variable (fs : List ScopeFilter) (q : Query)

theorem policy_narrowAll :
    (q.narrowAll fs).policy = (fs.filterMap policy?).getLast?.or q.policy := by
  refine last_of_foldl (fun s f => ?_) fs q
  cases f <;> rfl

theorem entity_narrowAll :
    (q.narrowAll fs).entity = (fs.filterMap entity?).getLast?.or q.entity := by
  refine last_of_foldl (fun s f => ?_) fs q
  cases f <;> rfl

theorem mem_stages_narrowAll (s : Stage) :
    s ∈ (q.narrowAll fs).stages ↔ s ∈ q.stages ∨ .stage s ∈ fs := by
  refine mem_of_foldl (fun r f => ?_) fs q
  cases f <;> simp [narrow, withPolicy, withEntity, withStage, withoutStage, eq_comm]

theorem mem_excludedStages_narrowAll (s : Stage) :
    s ∈ (q.narrowAll fs).excludedStages ↔ s ∈ q.excludedStages ∨ .notStage s ∈ fs := by
  refine mem_of_foldl (fun r f => ?_) fs q
  cases f <;> simp [narrow, withPolicy, withEntity, withStage, withoutStage, eq_comm]

theorem admits_iff {constraint : Option String} {value : String} :
    admits constraint value = true ↔ ∀ v, constraint = some v → value = v := by
  cases constraint <;> simp [admits, eq_comm]

/-- A list of admitted values admits each of its members, and anything if it has none. -/
theorem admitsAmong_iff {α : Type} [DecidableEq α] {values : List α} {a : α} :
    admitsAmong values a = true ↔ ((∃ v, v ∈ values) → a ∈ values) := by
  cases values with
  | nil => simp [admitsAmong]
  | cons v vs => simp [admitsAmong]

end Query

/-! ## 3. The meaning of the filters -/

namespace ScopeFilter

/-- What a list of filters leaves in scope, said by the filters themselves. -/
structure InScope (fs : List ScopeFilter) (a : Alert) : Prop where
  active : a.status = .active
  policy : ∀ id, (fs.filterMap policy?).getLast? = some id → a.policy.id = id
  entity : ∀ id, (fs.filterMap entity?).getLast? = some id → a.entity.id = id
  stage : (∃ s, .stage s ∈ fs) → .stage a.stage ∈ fs
  notExcluded : .notStage a.stage ∉ fs

/-- Two lists that have the same filters on policies in the same order, the same on entities in the
same order, and the same on stages in any order and with any repetitions. How the kinds are
interleaved is left open. -/
structure Rearranged (fs gs : List ScopeFilter) : Prop where
  policies : fs.filterMap policy? = gs.filterMap policy?
  entities : fs.filterMap entity? = gs.filterMap entity?
  stages : ∀ s, .stage s ∈ fs ↔ .stage s ∈ gs
  excludedStages : ∀ s, .notStage s ∈ fs ↔ .notStage s ∈ gs

theorem Rearranged.symm {fs gs : List ScopeFilter} (h : Rearranged fs gs) : Rearranged gs fs :=
  ⟨h.policies.symm, h.entities.symm, fun s => (h.stages s).symm, fun s => (h.excludedStages s).symm⟩

theorem Rearranged.inScope {fs gs : List ScopeFilter} (h : Rearranged fs gs) {a : Alert}
    (ha : InScope fs a) : InScope gs a where
  active := ha.active
  policy := h.policies ▸ ha.policy
  entity := h.entities ▸ ha.entity
  stage := by
    intro ⟨s, hs⟩
    exact (h.stages a.stage).mp (ha.stage ⟨s, (h.stages s).mpr hs⟩)
  notExcluded := fun hout => ha.notExcluded ((h.excludedStages a.stage).mpr hout)

end ScopeFilter

namespace Query

open ScopeFilter

/-- **A record is in scope exactly where the filters leave it there.** -/
theorem isMatch_inScope_iff {fs : List ScopeFilter} {a : Alert} :
    (inScope fs).isMatch a = true ↔ ScopeFilter.InScope fs a := by
  have hpolicy : (inScope fs).policy = (fs.filterMap policy?).getLast? :=
    (policy_narrowAll fs active).trans (Option.or_none)
  have hentity : (inScope fs).entity = (fs.filterMap entity?).getLast? :=
    (entity_narrowAll fs active).trans (Option.or_none)
  have hstages : ∀ s, s ∈ (inScope fs).stages ↔ .stage s ∈ fs := by
    intro s
    simp [inScope, mem_stages_narrowAll, active, any, withStatus]
  have hexcluded : ∀ s, s ∈ (inScope fs).excludedStages ↔ .notStage s ∈ fs := by
    intro s
    simp [inScope, mem_excludedStages_narrowAll, active, any, withStatus]
  simp only [isMatch, Bool.and_eq_true, admits_iff, admitsAmong_iff, decide_eq_true_eq, hpolicy,
    hentity, hstages, hexcluded, statuses_inScope]
  constructor
  · intro h
    obtain ⟨⟨⟨⟨hstatus, hp⟩, he⟩, hs⟩, hx⟩ := h
    exact ⟨by simpa using hstatus, hp, he, hs, hx⟩
  · intro h
    exact ⟨⟨⟨⟨by simp [h.active], h.policy⟩, h.entity⟩, h.stage⟩, h.notExcluded⟩

theorem isMatch_inScope_eq {fs gs : List ScopeFilter} (h : Rearranged fs gs) (a : Alert) :
    (inScope fs).isMatch a = (inScope gs).isMatch a := by
  rw [Bool.eq_iff_iff, isMatch_inScope_iff, isMatch_inScope_iff]
  exact ⟨h.inScope, h.symm.inScope⟩

/-- What a list of filters makes of the active records. -/
structure Narrows (fs : List ScopeFilter) : Prop where
  /-- A record is matched exactly where it is active, has what the last filters on policies and on
  entities ask for, and is of a stage that is asked for, if any is, and not excluded. -/
  isMatch_iff : ∀ a, (inScope fs).isMatch a = true ↔ ScopeFilter.InScope fs a
  /-- Another arrangement of the filters matches the same. -/
  rearranged : ∀ gs, Rearranged fs gs → ∀ a, (inScope gs).isMatch a = (inScope fs).isMatch a
  /-- No filter lets in what is not active. -/
  active : ∀ a, a.status ≠ .active → (inScope fs).isMatch a = false

/-- **What filters mean**, however many there are and in whatever order. -/
theorem filters_narrow (fs : List ScopeFilter) : Narrows fs where
  isMatch_iff _ := isMatch_inScope_iff
  rearranged _ h a := (isMatch_inScope_eq h a).symm
  active _ h := not_isMatch_inScope fs h

/-- Among filters on policies the order does count. -/
example : inScope [.policy "shell", .stage .deploy, .policy "root"] =
    inScope [.policy "root", .stage .deploy] ∧
    inScope [.policy "root", .stage .deploy, .policy "shell"] ≠
      inScope [.policy "root", .stage .deploy] := by
  decide

end Query

end AlertLedger
