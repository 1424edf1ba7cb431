import AlertLedger.Plan
import AlertLedger.Query.Basic

/-!
# The record after a detection

What a record comes to when its finding is detected (`settled`): the record that succeeds it, or
the record itself where none does. The main statements:

* `bare_absorb`, `bare_foldl_absorb`: joining changes nothing but evidence, so an alert joined
  from a whole batch is the first of its key in everything else;
* `settled_settled`: a detection that is met once more changes nothing. Everything carried over
  has been carried over the first time, in the same order and under the same sentence;
* `settled_self`: nor does a detection change the record that was made of it.
-/

namespace AlertLedger

/-! ## 1. Evidence carried twice -/

section Lists

variable {α : Type} [Evidence α]

theorem carried_append_left (xs ys newer : List α) :
    carried (xs ++ ys) newer = carried xs newer ++ carried ys newer :=
  List.filter_append ..

/-- What the newer list lacks altogether is carried over altogether. -/
theorem carried_eq_self {xs newer : List α} (h : ∀ x ∈ xs, x ∉ newer) : carried xs newer = xs :=
  List.filter_eq_self.mpr (by simpa using h)

/-- What has been carried over is what would be carried over again. -/
theorem carried_append_carried (older newer : List α) :
    carried (newer ++ carried older newer) newer = carried older newer := by
  rw [carried_append_left, carried_self, List.nil_append]
  exact carried_eq_self fun x hx => (mem_carried.mp hx).2

@[simp] theorem hasFresh_self (xs : List α) : hasFresh xs xs = false := by
  simp [hasFresh]

end Lists

namespace Alert

/-! ## 2. Alerts without their evidence -/

/-- An alert without its evidence. -/
def bare (a : Alert) : Alert := { a with violations := [], processEvidence := none }

theorem bare_absorbProcesses (older newer : Alert) :
    (absorbProcesses older newer).bare = newer.bare := by
  unfold absorbProcesses
  split <;> rfl

/-- Joining changes nothing but evidence. -/
theorem bare_absorb (older newer : Alert) : (absorb older newer).bare = newer.bare := by
  unfold absorb
  split
  · exact bare_absorbProcesses older newer
  · rfl

theorem bare_foldl_absorb (as : List Alert) (a : Alert) :
    (as.foldl (fun kept later => later.absorb kept) a).bare = a.bare := by
  induction as generalizing a with
  | nil => rfl
  | cons b as ih => rw [List.foldl_cons, ih, bare_absorb]

section Bare

variable {a b : Alert} (h : a.bare = b.bare)
include h

theorem id_eq_of_bare : a.id = b.id := by simpa [bare] using congrArg Alert.id h

theorem key_eq_of_bare : a.key = b.key := by simpa [bare, key] using congrArg Alert.key h

theorem stage_eq_of_bare : a.stage = b.stage := by simpa [bare] using congrArg Alert.stage h

theorem status_eq_of_bare : a.status = b.status := by simpa [bare] using congrArg Alert.status h

/-- No query looks at evidence. -/
theorem isMatch_eq_of_bare (q : Query) : q.isMatch a = q.isMatch b := by
  have hq : q.isMatch a.bare = q.isMatch b.bare := by rw [h]
  exact hq

end Bare

/-! ## 3. Succession -/

/-- What a stored record comes to when it is detected. -/
def settled (stored detected : Alert) : Alert := (succeed stored detected).getD stored

theorem settled_of_succeed {stored detected next : Alert}
    (h : succeed stored detected = some next) : settled stored detected = next := by
  rw [settled, h]
  rfl

theorem bothRuntime_iff {a b : Alert} :
    bothRuntime a b = true ↔ a.stage = .runtime ∧ b.stage = .runtime := by
  simp [bothRuntime, isRuntime]

/-- A record that is not joined is replaced as a whole. -/
theorem settled_of_not_bothRuntime {stored detected : Alert}
    (h : bothRuntime stored detected = false) :
    settled stored detected = underIdentityOf stored detected := by
  rw [settled, succeed, if_neg (by simp [h])]
  simp only
  split
  · rename_i e
    exact e.symm
  · rfl

theorem settled_of_tellsNews {stored detected : Alert} (h : tellsNews stored detected = true) :
    settled stored detected = underIdentityOf stored (absorb stored detected) := by
  have hb : bothRuntime stored detected = true := by
    rw [tellsNews, Bool.and_eq_true] at h
    exact h.1
  rw [settled, succeed, if_pos hb, if_pos h]
  rfl

theorem settled_of_not_tellsNews {stored detected : Alert}
    (hb : bothRuntime stored detected = true) (h : tellsNews stored detected = false) :
    settled stored detected = stored := by
  rw [settled, succeed, if_pos hb, if_neg (by simp [h])]
  rfl

/-- A detection with the evidence of the record tells nothing new. -/
theorem not_tellsNews_of_eq {stored detected : Alert}
    (hp : stored.processes = detected.processes) (hv : stored.violations = detected.violations) :
    tellsNews stored detected = false := by
  simp [tellsNews, hp, hv]

/-- What is joined depends on the older alert only through what is carried over. -/
theorem absorb_congr {a b newer : Alert} (hb : bothRuntime a newer = bothRuntime b newer)
    (hp : carried a.processes newer.processes = carried b.processes newer.processes)
    (hv : carried a.violations newer.violations = carried b.violations newer.violations) :
    absorb a newer = absorb b newer := by
  have hps : absorbProcesses a newer = absorbProcesses b newer := by
    rw [absorbProcesses, absorbProcesses, hp]
  rw [absorb, absorb, hb, hps, absorbViolations, absorbViolations, violations_absorbProcesses, hv]

/-- A record that is detected stays, or is replaced under its identity by an alert that is the
detection but for the evidence. -/
theorem settled_cases (stored detected : Alert) :
    settled stored detected = stored ∨
      ∃ a, a.bare = detected.bare ∧ settled stored detected = underIdentityOf stored a := by
  cases hb : bothRuntime stored detected with
  | false => exact .inr ⟨detected, rfl, settled_of_not_bothRuntime hb⟩
  | true =>
    cases ht : tellsNews stored detected with
    | false => exact .inl (settled_of_not_tellsNews hb ht)
    | true => exact .inr ⟨_, bare_absorb stored detected, settled_of_tellsNews ht⟩

/-- A record keeps its identity when it is detected. -/
theorem underIdentityOf_settled (stored detected : Alert) :
    underIdentityOf stored (settled stored detected) = settled stored detected := by
  rcases settled_cases stored detected with h | ⟨a, _, h⟩ <;> rw [h] <;> rfl

theorem id_settled (stored detected : Alert) : (settled stored detected).id = stored.id := by
  rw [← underIdentityOf_settled]
  rfl

theorem time_settled (stored detected : Alert) : (settled stored detected).time = stored.time := by
  rw [← underIdentityOf_settled]
  rfl

theorem status_settled (stored detected : Alert) :
    (settled stored detected).status = stored.status := by
  rw [← underIdentityOf_settled]
  rfl

theorem key_settled {stored detected : Alert} (h : stored.key = detected.key) :
    (settled stored detected).key = detected.key := by
  rcases settled_cases stored detected with e | ⟨a, ha, e⟩
  · rw [e, h]
  · rw [e, key_underIdentityOf, key_eq_of_bare ha]

/-- Where a record and a detection of it are both in scope, so is what the record comes to. -/
theorem isMatch_settled {q : Query} {stored detected : Alert} (hs : q.isMatch stored = true)
    (hd : q.isMatch detected = true) : q.isMatch (settled stored detected) = true := by
  rcases settled_cases stored detected with e | ⟨a, ha, e⟩
  · rw [e, hs]
  · rw [e]
    rw [← isMatch_eq_of_bare ha] at hd
    simp only [Query.isMatch, Bool.and_eq_true, underIdentityOf] at hs hd ⊢
    exact ⟨⟨⟨⟨hs.1.1.1.1, hd.1.1.1.2⟩, hd.1.1.2⟩, hd.1.2⟩, hd.2⟩

/-- **A record settles once**: the same detection leaves it as it is from then on. -/
theorem settled_settled (stored detected : Alert) :
    settled (settled stored detected) detected = settled stored detected := by
  cases hb : bothRuntime stored detected with
  | true =>
    cases ht : tellsNews stored detected with
    | false =>
      rw [settled_of_not_tellsNews hb ht, settled_of_not_tellsNews hb ht]
    | true =>
      rw [settled_of_tellsNews ht]
      have hstage : (absorb stored detected).stage = detected.stage :=
        stage_eq_of_bare (bare_absorb stored detected)
      have hb' : bothRuntime (underIdentityOf stored (absorb stored detected)) detected = true :=
        bothRuntime_iff.mpr ⟨hstage.trans (bothRuntime_iff.mp hb).2, (bothRuntime_iff.mp hb).2⟩
      have hsame : absorb (underIdentityOf stored (absorb stored detected)) detected =
          absorb stored detected := by
        refine absorb_congr (hb'.trans hb.symm) ?_ ?_
        · show carried (absorb stored detected).processes _ = _
          rw [processes_absorb hb, carried_append_carried]
        · show carried (absorb stored detected).violations _ = _
          rw [violations_absorb hb, carried_append_carried]
      cases ht' : tellsNews (underIdentityOf stored (absorb stored detected)) detected with
      | false => exact settled_of_not_tellsNews hb' ht'
      | true =>
        rw [settled_of_tellsNews ht', hsame]
        rfl
  | false =>
    rw [settled_of_not_bothRuntime hb]
    cases hb' : bothRuntime (underIdentityOf stored detected) detected with
    | true => exact settled_of_not_tellsNews hb' (not_tellsNews_of_eq rfl rfl)
    | false =>
      rw [settled_of_not_bothRuntime hb']
      rfl

/-- A detection does not change a record that was made of it. -/
theorem settled_self (a : Alert) (id : String) :
    settled { a with id := id } a = { a with id := id } := by
  cases hb : bothRuntime { a with id := id } a with
  | true => exact settled_of_not_tellsNews hb (not_tellsNews_of_eq rfl rfl)
  | false =>
    rw [settled_of_not_bothRuntime hb]
    rfl

end Alert

end AlertLedger
