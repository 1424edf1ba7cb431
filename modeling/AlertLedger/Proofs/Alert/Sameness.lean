import AlertLedger.Proofs.Alert.Carried
import Mathlib.Data.List.Forall2

/-!
# One sameness of evidence

Whether a record is written again is decided by two tests of evidence. At runtime each piece is
looked for in the other list by what it says (`isAmong`); elsewhere the record and the detection
are compared as a whole, and with them their evidence, by equality. The main statements:

* `Violation.isSame_iff`, `ProcessSighting.isSame_iff` (beside the tests): what says the same is
  equal, for any two pieces of either kind;
* `judgedAlike_of_setsRow`: so the two tests answer alike of a piece of evidence, wherever on an
  alert the evidence is put;
* `evidence_judgedAlike`: this for both kinds of evidence that an alert has.
-/

namespace AlertLedger

/-! ## 1. Lists with the same evidence -/

section Lists

variable {α : Type} {xs ys front back : List α} {x y : α}

/-- A piece that stands nowhere else is in a list only at its own place. -/
theorem eq_of_mem_at_place (hx : x ∉ front ++ back) (h : x ∈ front ++ y :: back) : x = y := by
  rw [List.mem_append, not_or] at hx
  rw [List.mem_append, List.mem_cons] at h
  exact (h.resolve_left hx.1).resolve_right hx.2

variable [Evidence α]

/-- Whether two lists have the same pieces of evidence one after the other. -/
def SameInOrder (xs ys : List α) : Prop :=
  List.Forall₂ (fun x y => Evidence.isSame x y = true) xs ys

/-- Whether each of two lists has all pieces of the other, order and repetitions aside. -/
def SameAsSets (xs ys : List α) : Prop :=
  (∀ x ∈ xs, isAmong x ys = true) ∧ ∀ y ∈ ys, isAmong y xs = true

theorem sameInOrder_iff : SameInOrder xs ys ↔ xs = ys := by
  simp only [SameInOrder, Evidence.isSame_iff, List.forall₂_eq_eq_eq]

theorem sameAsSets_iff : SameAsSets xs ys ↔ ∀ x, x ∈ xs ↔ x ∈ ys := by
  simp only [SameAsSets, isAmong_iff]
  exact ⟨fun h x => ⟨h.1 x, h.2 x⟩, fun h => ⟨fun x => (h x).mp, fun x => (h x).mpr⟩⟩

/-- One piece in another's place is noticed where lists are compared in order. -/
theorem sameInOrder_replaced_iff :
    SameInOrder (front ++ x :: back) (front ++ y :: back) ↔ Evidence.isSame x y = true := by
  rw [sameInOrder_iff, Evidence.isSame_iff, List.append_cancel_left_eq, List.cons.injEq]
  exact and_iff_left rfl

/-- Where they are compared as sets, it is noticed unless both pieces stand elsewhere too. -/
theorem sameAsSets_replaced_iff (h : x ∉ front ++ back ∨ y ∉ front ++ back) :
    SameAsSets (front ++ x :: back) (front ++ y :: back) ↔ Evidence.isSame x y = true := by
  rw [sameAsSets_iff, Evidence.isSame_iff]
  constructor
  · intro hsame
    have hx : x ∈ front ++ y :: back := (hsame x).mp (by simp)
    have hy : y ∈ front ++ x :: back := (hsame y).mpr (by simp)
    rcases h with h | h
    · exact eq_of_mem_at_place h hx
    · exact (eq_of_mem_at_place h hy).symm
  · intro hxy z
    rw [hxy]

end Lists

namespace Alert

/-! ## 2. One row of evidence on an alert -/

/-- An alert with these violations in place of its own. -/
def withViolations (a : Alert) (vs : List Violation) : Alert := { a with violations := vs }

/-- An alert with these processes in place of its own, under the sentence that `say` has for
them. -/
def withProcesses (say : List ProcessSighting → String) (a : Alert) (ps : List ProcessSighting) :
    Alert :=
  { a with processEvidence := some ⟨say ps, ps⟩ }

/-- What makes `put` a way of setting one row of evidence: it leaves all else as it is, and the
row can be read off again. -/
structure SetsRow {α : Type} (put : Alert → List α → Alert) : Prop where
  stage : ∀ a xs, (put a xs).stage = a.stage
  underIdentityOf : ∀ a b xs ys,
    underIdentityOf (put a xs) (put b ys) = put (underIdentityOf a b) ys
  injective : ∀ a, Function.Injective (put a)
  sameEvidence_iff : ∀ a xs ys, (put a xs).SameEvidence (put a ys) ↔ ∀ x, x ∈ xs ↔ x ∈ ys

theorem setsRow_withViolations : SetsRow withViolations where
  stage _ _ := rfl
  underIdentityOf _ _ _ _ := rfl
  injective _ _ _ h := congrArg Alert.violations h
  sameEvidence_iff _ _ _ := ⟨fun h => h.violations, fun h => ⟨h, fun _ => .rfl⟩⟩

theorem setsRow_withProcesses (say : List ProcessSighting → String) :
    SetsRow (withProcesses say) where
  stage _ _ := rfl
  underIdentityOf _ _ _ _ := rfl
  injective _ _ _ h := congrArg Alert.processes h
  sameEvidence_iff _ _ _ := ⟨fun h => h.processes, fun h => ⟨fun _ => .rfl, h⟩⟩

/-! ## 3. Two tests of evidence -/

/-- Whether a row of evidence that `put` sets is judged alike by both tests. The record and the
detection are to be the same but for their identity and this row. -/
structure JudgedAlike {α : Type} [Evidence α] (put : Alert → List α → Alert) : Prop where
  /-- A piece is found in a list exactly where it is a member. -/
  found : ∀ (x : α) xs, isAmong x xs = true ↔ x ∈ xs
  /-- A record that is not of runtime stands exactly where the pieces are the same in order. -/
  compared : ∀ stored detected xs ys, stored.stage ≠ .runtime →
    underIdentityOf stored detected = stored →
      (succeed (put stored xs) (put detected ys) = none ↔ SameInOrder xs ys)
  /-- A runtime record stands exactly where each piece is found on the other side. -/
  joined : ∀ stored detected xs ys, stored.stage = .runtime →
    underIdentityOf stored detected = stored →
      (succeed (put stored xs) (put detected ys) = none ↔ SameAsSets xs ys)
  /-- Of one piece in another's place, amid other evidence that does not have both, the two tests
  say the same: at whatever stage, the record stands exactly where the two pieces are the same. -/
  agreed : ∀ stored detected front back x y, underIdentityOf stored detected = stored →
    x ∉ front ++ back ∨ y ∉ front ++ back →
      (succeed (put stored (front ++ x :: back)) (put detected (front ++ y :: back)) = none ↔
        Evidence.isSame x y = true)

section Rows

variable {α : Type} {put : Alert → List α → Alert} (hput : SetsRow put)
  {stored detected : Alert} (h : underIdentityOf stored detected = stored) (xs ys : List α)

include hput h

theorem underIdentityOf_put :
    underIdentityOf (put stored xs) (put detected ys) = put stored ys := by
  rw [hput.underIdentityOf, h]

variable [Evidence α]

theorem succeed_put_eq_none_of_not_runtime (hs : stored.stage ≠ .runtime) :
    succeed (put stored xs) (put detected ys) = none ↔ SameInOrder xs ys := by
  have hb : ¬ bothRuntime (put stored xs) (put detected ys) = true := by
    rw [bothRuntime_iff, hput.stage]
    exact fun hb => hs hb.1
  rw [succeed_eq_none_iff, if_neg hb, underIdentityOf_put hput h, (hput.injective stored).eq_iff,
    sameInOrder_iff, eq_comm]

theorem succeed_put_eq_none_of_runtime (hs : stored.stage = .runtime) :
    succeed (put stored xs) (put detected ys) = none ↔ SameAsSets xs ys := by
  have hd : detected.stage = .runtime := (congrArg Alert.stage h).trans hs
  have hb : bothRuntime (put stored xs) (put detected ys) = true := by
    rw [bothRuntime_iff, hput.stage, hput.stage]
    exact ⟨hs, hd⟩
  have hsame : (put stored ys).SameEvidence (put detected ys) := by
    rw [← underIdentityOf_put hput h xs ys]
    exact underIdentityOf_sameEvidence _ _
  rw [succeed_eq_none_iff, if_pos hb, sameAsSets_iff, ← hput.sameEvidence_iff stored]
  exact ⟨fun hxy => hxy.trans hsame.symm, fun hxy => hxy.trans hsame⟩

end Rows

/-- **The two tests answer alike** of evidence that is set on an alert as a row. -/
theorem judgedAlike_of_setsRow {α : Type} [Evidence α] {put : Alert → List α → Alert}
    (hput : SetsRow put) : JudgedAlike put where
  found _ _ := isAmong_iff
  compared _ _ xs ys hs h := succeed_put_eq_none_of_not_runtime hput h xs ys hs
  joined _ _ xs ys hs h := succeed_put_eq_none_of_runtime hput h xs ys hs
  agreed stored _ front back x y h hxy := by
    by_cases hs : stored.stage = .runtime
    · rw [succeed_put_eq_none_of_runtime hput h _ _ hs, sameAsSets_replaced_iff hxy]
    · rw [succeed_put_eq_none_of_not_runtime hput h _ _ hs, sameInOrder_replaced_iff]

/-- **Evidence is the same where it is equal**, and that is how it is judged on every way: pieces
of either kind say the same exactly where they are equal, and the search for a piece and the
comparison of whole records never differ over one. -/
theorem evidence_judgedAlike :
    (∀ v w : Violation, v.isSame w = true ↔ v = w) ∧
      (∀ p q : ProcessSighting, p.isSame q = true ↔ p = q) ∧
      JudgedAlike withViolations ∧ ∀ say, JudgedAlike (withProcesses say) :=
  ⟨fun _ _ => Violation.isSame_iff, fun _ _ => ProcessSighting.isSame_iff,
    judgedAlike_of_setsRow setsRow_withViolations,
    fun say => judgedAlike_of_setsRow (setsRow_withProcesses say)⟩

-- the order of its attributes belongs to an event
example : (⟨"pulled", .clusterEvent none [⟨"image", "web"⟩, ⟨"tag", "1"⟩]⟩ : Violation).isSame
    ⟨"pulled", .clusterEvent none [⟨"tag", "1"⟩, ⟨"image", "web"⟩]⟩ = false := by decide

end Alert

end AlertLedger
