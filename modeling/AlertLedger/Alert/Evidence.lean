import AlertLedger.Alert.Sentence

/-!
# Evidence carried over

When a finding is detected again, what its older record knew is kept. Evidence has no identifier,
so that a piece of it is found again by what it says (`isSame`). Two runtime alerts are joined
(`absorb`): the newer keeps its own evidence in front, and what only the older has follows in the
older's order. Any other pair is not joined, because build and deploy findings are complete at
every detection. `succeed` makes the record that replaces a stored one: it keeps the stored
record's id, state and times, and there is none if nothing would change.
-/

namespace AlertLedger

/-! ## 1. Pieces of evidence -/

/-- Whether two observations are of one kind and know the same. -/
def Observation.isSame : Observation → Observation → Bool
  | .generic, .generic => true
  | .clusterEvent time attributes, .clusterEvent time' attributes' =>
    time = time' && attributes = attributes'
  | .networkFlow attributes, .networkFlow attributes' => attributes = attributes'
  -- each kind by name, so that a further one is not taken for different from itself
  | .generic, _ | .clusterEvent .., _ | .networkFlow .., _ => false

/-- Whether two violations are the same piece of evidence. -/
def Violation.isSame (a b : Violation) : Bool :=
  a.message = b.message && a.observation.isSame b.observation

/-- Whether two executions are the same piece of evidence. -/
def ProcessSighting.isSame (a b : ProcessSighting) : Bool :=
  a.container = b.container && a.name = b.name && a.path = b.path && a.arguments = b.arguments
    && a.user = b.user && a.time = b.time

theorem Observation.isSame_iff {a b : Observation} : a.isSame b = true ↔ a = b := by
  cases a <;> cases b <;> simp [isSame]

theorem Violation.isSame_iff {a b : Violation} : a.isSame b = true ↔ a = b := by
  obtain ⟨m, o⟩ := a
  obtain ⟨m', o'⟩ := b
  simp [isSame, Observation.isSame_iff]

theorem ProcessSighting.isSame_iff {a b : ProcessSighting} : a.isSame b = true ↔ a = b := by
  obtain ⟨⟩ := a
  obtain ⟨⟩ := b
  simp [isSame, and_assoc]

/-- A kind of evidence, with the test by which a piece of it is found again. -/
class Evidence (α : Type) where
  isSame : α → α → Bool
  isSame_iff : ∀ {x y : α}, isSame x y = true ↔ x = y

instance : Evidence Violation := ⟨Violation.isSame, Violation.isSame_iff⟩

instance : Evidence ProcessSighting := ⟨ProcessSighting.isSame, ProcessSighting.isSame_iff⟩

/-! ## 2. Lists of evidence -/

section Lists

variable {α : Type} [Evidence α]

/-- Whether a piece of evidence is in a list. -/
def isAmong (x : α) (xs : List α) : Bool := xs.any (Evidence.isSame x)

/-- What the older list has and the newer lacks, in the older's order. -/
def carried (older newer : List α) : List α := older.filter (!isAmong · newer)

/-- Whether the newer list has something that the older lacks. -/
def hasFresh (older newer : List α) : Bool := newer.any (!isAmong · older)

@[simp] theorem isAmong_iff {x : α} {xs : List α} : isAmong x xs = true ↔ x ∈ xs := by
  simp [isAmong, Evidence.isSame_iff]

@[simp] theorem isAmong_eq_false_iff {x : α} {xs : List α} : isAmong x xs = false ↔ x ∉ xs := by
  rw [← Bool.not_eq_true, isAmong_iff]

theorem mem_carried {x : α} {older newer : List α} :
    x ∈ carried older newer ↔ x ∈ older ∧ x ∉ newer := by
  simp [carried]

theorem mem_append_carried {x : α} {older newer : List α} :
    x ∈ newer ++ carried older newer ↔ x ∈ newer ∨ x ∈ older := by
  simp only [List.mem_append, mem_carried]
  grind

theorem carried_eq_filter [DecidableEq α] (older newer : List α) :
    carried older newer = older.filter (· ∉ newer) := by
  refine List.filter_congr fun x _ => ?_
  rw [Bool.eq_iff_iff]
  simp

@[simp] theorem carried_self (xs : List α) : carried xs xs = [] := by
  simp [carried]

theorem carried_eq_nil {older newer : List α} :
    carried older newer = [] ↔ ∀ x ∈ older, x ∈ newer := by
  simp [carried]

end Lists

namespace Alert

/-! ## 3. Joining two runtime alerts -/

/-- The newer alert with the older's processes behind its own. The sentence is written anew only
when there is something to carry over. -/
def absorbProcesses (older newer : Alert) : Alert :=
  match carried older.processes newer.processes with
  | [] => newer
  | ps => { newer with processEvidence := some (.of (newer.processes ++ ps)) }

/-- The newer alert with the older's violations behind its own. -/
def absorbViolations (older newer : Alert) : Alert :=
  { newer with violations := newer.violations ++ carried older.violations newer.violations }

/-- Whether both alerts were raised at runtime. -/
def bothRuntime (a b : Alert) : Bool := a.isRuntime && b.isRuntime

/-- The newer alert with the older's evidence, if both were raised at runtime. -/
def absorb (older newer : Alert) : Alert :=
  if bothRuntime older newer then absorbViolations older (absorbProcesses older newer) else newer

/-- Whether joining two runtime alerts tells something new: the newer has evidence that the older
lacks, or the older has evidence to carry over. -/
def tellsNews (older newer : Alert) : Bool :=
  bothRuntime older newer &&
    (hasFresh older.processes newer.processes || hasFresh older.violations newer.violations
      || carried older.processes newer.processes ≠ []
      || carried older.violations newer.violations ≠ [])

theorem absorb_of_not_bothRuntime {older newer : Alert} (h : bothRuntime older newer = false) :
    absorb older newer = newer := by
  simp [absorb, h]

theorem tellsNews_of_not_bothRuntime {older newer : Alert} (h : bothRuntime older newer = false) :
    tellsNews older newer = false := by
  simp [tellsNews, h]

theorem processes_absorbProcesses (older newer : Alert) :
    (absorbProcesses older newer).processes =
      newer.processes ++ carried older.processes newer.processes := by
  unfold absorbProcesses
  split
  · simp_all
  · rfl

@[simp] theorem violations_absorbProcesses (older newer : Alert) :
    (absorbProcesses older newer).violations = newer.violations := by
  unfold absorbProcesses
  split <;> rfl

/-- The violations of two joined alerts: the newer's own, then the carried ones. -/
theorem violations_absorb {older newer : Alert} (h : bothRuntime older newer = true) :
    (absorb older newer).violations =
      newer.violations ++ carried older.violations newer.violations := by
  simp [absorb, h, absorbViolations]

/-- The processes of two joined alerts: the newer's own, then the carried ones. -/
theorem processes_absorb {older newer : Alert} (h : bothRuntime older newer = true) :
    (absorb older newer).processes =
      newer.processes ++ carried older.processes newer.processes := by
  rw [absorb, if_pos h, ← processes_absorbProcesses]
  rfl

@[simp] theorem key_absorb (older newer : Alert) : (absorb older newer).key = newer.key := by
  unfold absorb absorbViolations absorbProcesses
  split
  · split <;> rfl
  · rfl

/-! ## 4. Replacing a stored record -/

/-- An alert under the id, state and times of a stored record. -/
def underIdentityOf (stored a : Alert) : Alert :=
  { a with id := stored.id, status := stored.status, time := stored.time,
           resolvedAt := stored.resolvedAt }

/-- The record that replaces a stored one after a detection, or none if the stored one says it all
already. Runtime alerts are joined; any other detection replaces the record as a whole. -/
def succeed (stored detected : Alert) : Option Alert :=
  if bothRuntime stored detected then
    if tellsNews stored detected then some (underIdentityOf stored (absorb stored detected))
    else none
  else
    let a := underIdentityOf stored detected
    if a = stored then none else some a

@[simp] theorem key_underIdentityOf (stored a : Alert) : (underIdentityOf stored a).key = a.key :=
  rfl

theorem key_of_succeed {stored detected a : Alert} (h : succeed stored detected = some a) :
    a.key = detected.key := by
  unfold succeed at h
  split at h
  · split at h
    · cases h; simp
    · cases h
  · simp only at h
    split at h
    · cases h
    · cases h; rfl

end Alert

end AlertLedger
