/-!
# Ascending lists

A finite set of values is kept as the list of its members in strictly ascending order: each
member once, the smallest first. The list is determined by the set (`ofList_eq_of_mem_iff`), so
a sentence or a plan that goes through it cannot depend on the order or the repetitions of the
values it was collected from.

* `insert` puts one value in its place and drops it where it is there already;
* `ofList` collects the values of any list;
* `mem_ofList` and `pairwise_ofList` say which values are there, and in which order.
-/

namespace AlertLedger.Ascending

variable {α : Type}

/-! ## 1. Collecting -/

/-- A value put in its place in an ascending list; a value already there stays as it is. -/
def insert [LT α] [DecidableLT α] (a : α) : List α → List α
  | [] => [a]
  | b :: bs => if a < b then a :: b :: bs else if b < a then b :: insert a bs else b :: bs

/-- The values of a list, each once and in ascending order. -/
def ofList [LT α] [DecidableLT α] (as : List α) : List α := as.foldr insert []

section Equations

variable [LT α] [DecidableLT α]

@[simp] theorem insert_nil (a : α) : insert a [] = [a] := rfl

@[simp] theorem ofList_nil : ofList ([] : List α) = [] := rfl

@[simp] theorem ofList_cons (a : α) (as : List α) : ofList (a :: as) = insert a (ofList as) := rfl

end Equations

/-! ## 2. Members and order -/

section Order

variable [LT α] [DecidableLT α] [Std.Trichotomous (α := α) (· < ·)]

theorem mem_insert {a x : α} {bs : List α} : x ∈ insert a bs ↔ x = a ∨ x ∈ bs := by
  induction bs with
  | nil => simp
  | cons b bs ih =>
    unfold insert
    split
    · simp
    · split
      · simp only [List.mem_cons, ih]
        grind
      · rename_i hab hba
        have hEq : a = b := Std.Trichotomous.trichotomous a b hab hba
        subst hEq
        simp

@[simp] theorem mem_ofList {x : α} {as : List α} : x ∈ ofList as ↔ x ∈ as := by
  induction as with
  | nil => simp
  | cons a as ih => simp [mem_insert, ih]

variable [Trans (α := α) (β := α) (γ := α) (· < ·) (· < ·) (· < ·)]

theorem pairwise_insert {a : α} {bs : List α} (h : bs.Pairwise (· < ·)) :
    (insert a bs).Pairwise (· < ·) := by
  induction bs with
  | nil => simp
  | cons b bs ih =>
    rw [List.pairwise_cons] at h
    unfold insert
    split
    · rename_i hab
      refine List.pairwise_cons.2 ⟨fun x hx => ?_, List.pairwise_cons.2 h⟩
      rcases List.mem_cons.1 hx with rfl | hx
      · exact hab
      · exact Trans.trans hab (h.1 x hx)
    · split
      · rename_i hba
        refine List.pairwise_cons.2 ⟨fun x hx => ?_, ih h.2⟩
        rcases mem_insert.1 hx with rfl | hx
        · exact hba
        · exact h.1 x hx
      · exact List.pairwise_cons.2 h

/-- The collected list is strictly ascending, so no value stands in it twice. -/
theorem pairwise_ofList (as : List α) : (ofList as).Pairwise (· < ·) := by
  induction as with
  | nil => simp
  | cons a as ih => exact pairwise_insert ih

variable [Std.Irrefl (α := α) (· < ·)]

omit [DecidableLT α] in
/-- Two strictly ascending lists with the same members are the same list. -/
theorem eq_of_mem_iff : ∀ {as bs : List α}, as.Pairwise (· < ·) → bs.Pairwise (· < ·) →
    (∀ x, x ∈ as ↔ x ∈ bs) → as = bs
  | [], [], _, _, _ => rfl
  | [], b :: _, _, _, h => absurd ((h b).2 (by simp)) (by simp)
  | a :: _, [], _, _, h => absurd ((h a).1 (by simp)) (by simp)
  | a :: as, b :: bs, ha, hb, h => by
    rw [List.pairwise_cons] at ha hb
    have irr : ∀ x : α, ¬ x < x := Std.Irrefl.irrefl
    have hab : ¬ a < b := fun hlt => by
      rcases List.mem_cons.1 ((h a).1 (by simp)) with e | hmem
      · exact irr b (e ▸ hlt)
      · exact irr b (Trans.trans (hb.1 a hmem) hlt)
    have hba : ¬ b < a := fun hlt => by
      rcases List.mem_cons.1 ((h b).2 (by simp)) with e | hmem
      · exact irr a (e ▸ hlt)
      · exact irr a (Trans.trans (ha.1 b hmem) hlt)
    have e : a = b := Std.Trichotomous.trichotomous a b hab hba
    subst e
    refine congrArg (a :: ·) (eq_of_mem_iff ha.2 hb.2 fun x => ?_)
    have hx := h x
    simp only [List.mem_cons] at hx
    constructor
    · intro hm
      rcases hx.1 (.inr hm) with rfl | hm'
      · exact absurd (ha.1 x hm) (irr x)
      · exact hm'
    · intro hm
      rcases hx.2 (.inr hm) with rfl | hm'
      · exact absurd (hb.1 x hm) (irr x)
      · exact hm'

/-- What is collected depends only on which values occur. -/
theorem ofList_eq_of_mem_iff {as bs : List α} (h : ∀ x, x ∈ as ↔ x ∈ bs) :
    ofList as = ofList bs :=
  eq_of_mem_iff (pairwise_ofList as) (pairwise_ofList bs) fun x => by simp [h x]

end Order

end AlertLedger.Ascending
