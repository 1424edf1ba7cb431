import AlertLedger.Call.Prompt
import AlertLedger.Proofs.Call.Keeping
import AlertLedger.Proofs.Store.Listing

/-!
# Records that a run never comes across

Some records of a store may be of no concern to a course: no search of it matches them, and it
writes nothing under their ids (`Call.PassesBy`). Such a course runs in the store without these
records as it runs in the whole store: the same calls with the same answers, the same outcome, and
in the end the same store but for these records (`Course.run_without`).
-/

namespace AlertLedger

namespace Store

/-! ## 1. A store without some records -/

/-- The store without some of its records. -/
def without (s : Store) (as : List Alert) : Store where
  records := s.records.filter (· ∉ as)
  denied := s.denied
  ascending := s.ascending.filter _
  named a ha := s.named a (List.mem_filter.mp ha).1

variable {s : Store} {as : List Alert}

@[simp] theorem denied_without (s : Store) (as : List Alert) : (s.without as).denied = s.denied :=
  rfl

theorem mem_without {r : Alert} : r ∈ (s.without as).records ↔ r ∈ s.records ∧ r ∉ as := by
  rw [without, List.mem_filter, decide_eq_true_eq]

@[simp] theorem without_nil (s : Store) : s.without [] = s :=
  eq_of_mem_iff rfl fun r => by simp [mem_without]

theorem get?_without (s : Store) (as : List Alert) (id : String) :
    (s.without as).get? id = (s.get? id).filter (· ∉ as) := by
  refine Option.ext fun r => ?_
  rw [get?_eq_some_iff, mem_without, Option.filter_eq_some_iff, get?_eq_some_iff,
    decide_eq_true_eq, and_right_comm]

/-- Under an id that none of them has, nothing is missing. -/
theorem get?_without_of_not_mem {id : String} (h : ∀ a ∈ as, a.id ≠ id) :
    (s.without as).get? id = s.get? id := by
  refine Option.ext fun r => ?_
  rw [get?_without, Option.filter_eq_some_iff, decide_eq_true_eq]
  exact and_iff_left_of_imp fun hr hmem => h r hmem (id_of_get? hr)

/-- A search finds the same if it matches none of them. -/
theorem select_without {q : Query} (h : ∀ a ∈ as, q.isMatch a = false) :
    (s.without as).select q = s.select q := by
  refine select_congr fun r hr => ?_
  rw [mem_without]
  refine and_iff_left fun hmem => ?_
  rw [h r hmem] at hr
  cases hr

theorem search_without {q : Query} (h : ∀ a ∈ as, q.isMatch a = false) :
    (s.without as).search q = s.search q := by
  simp only [search, denied_without, select_without h]

theorem add_without {a : Alert} (h : ∀ b ∈ as, b.id ≠ a.id) :
    (s.without as).add a = (s.add a).without as := by
  by_cases hne : a.id = ""
  · rw [add, dif_neg (not_not.mpr hne), add, dif_neg (not_not.mpr hne)]
  refine eq_of_get?_eq (by simp) fun id => ?_
  rw [get?_add _ hne, get?_without, get?_without, get?_add s hne]
  split
  · have hnew : a ∉ as := fun hmem => h a hmem rfl
    simp [Option.filter, hnew]
  · rfl

theorem retire_without (now : Instant) {id : String} (h : ∀ b ∈ as, b.id ≠ id) :
    (s.without as).retire now id = (s.retire now id).without as := by
  cases hget : s.get? id with
  | none => rw [retire_of_none hget, retire_of_none (by rw [get?_without_of_not_mem h, hget])]
  | some a =>
    rw [retire_of_some hget, retire_of_some (by rw [get?_without_of_not_mem h, hget]), add_without]
    intro b hb
    rw [id_retired, id_of_get? hget]
    exact h b hb

end Store

/-! ## 2. Calls that pass records by -/

/-- Whether a call neither finds one of these records nor writes under the id of one. -/
def Call.PassesBy (as : List Alert) : Call → Prop
  | .search q => ∀ a ∈ as, q.isMatch a = false
  | .searchResolved k => ∀ a ∈ as, (Query.resolvedFor k).isMatch a = false
  | .dispatch _ => True
  | .upsert b => ∀ a ∈ as, a.id ≠ b.id
  | .markStale id => ∀ a ∈ as, a.id ≠ id

variable {now : Instant} {notify : Alert → Except NotifyError Unit} {as : List Alert}

/-- What comes of writing a record. -/
theorem Store.afterWrite_upsert_fst (s : Store) (b : Alert) :
    (s.afterWrite (s.upsert b)).1 = if s.denied = true then .error accessRevoked
      else if b.id = "" then .error idMissing else .ok () := by
  rw [upsert_eq]
  split_ifs <;> rfl

/-- What comes of marking a record stale. -/
theorem Store.afterWrite_markStale_fst (s : Store) (id : String) :
    (s.afterWrite (s.markStale id now)).1 = if s.denied = true then .error accessRevoked
      else if s.get? id = none then .error (.notFound id) else .ok () := by
  rw [markStale_eq]
  split_ifs <;> rfl

/-- **A call that passes them by is answered the same without them.** -/
theorem Store.answer_fst_without (s : Store) {c : Call} (hc : c.PassesBy as) :
    ((s.without as).answer now notify c).1 = (s.answer now notify c).1 := by
  cases c with
  | search q => exact search_without hc
  | searchResolved k => exact search_without hc
  | dispatch a => rfl
  | upsert a =>
    show (afterWrite _ ((s.without as).upsert a)).1 = (s.afterWrite (s.upsert a)).1
    rw [afterWrite_upsert_fst, afterWrite_upsert_fst, denied_without]
  | markStale id =>
    show (afterWrite _ ((s.without as).markStale id now)).1 = (s.afterWrite (s.markStale id now)).1
    rw [afterWrite_markStale_fst, afterWrite_markStale_fst, denied_without,
      get?_without_of_not_mem hc]

/-- It has the same effect. -/
theorem Store.effect_without (s : Store) {c : Call} (hc : c.PassesBy as) :
    (s.without as).effect now c = (s.effect now c).without as := by
  cases c with
  | search q => rfl
  | searchResolved k => rfl
  | dispatch a => rfl
  | upsert a => exact add_without hc
  | markStale id => exact retire_without now hc

theorem Store.answer_snd_without (s : Store) {c : Call} (hc : c.PassesBy as) :
    ((s.without as).answer now notify c).2 = (s.answer now notify c).2.without as := by
  rw [answer_snd, answer_snd, denied_without, effect_without s hc]
  split <;> rfl

/-- And it leaves these records as they are. -/
theorem Store.get?_answer_of_passesBy (s : Store) {c : Call} (hc : c.PassesBy as) {a : Alert}
    (ha : a ∈ as) : (s.answer now notify c).2.get? a.id = s.get? a.id := by
  rw [answer_snd]
  split
  · rfl
  · cases c with
    | search q => rfl
    | searchResolved k => rfl
    | dispatch b => rfl
    | upsert b =>
      show (s.add b).get? a.id = _
      by_cases hne : b.id = ""
      · rw [add, dif_neg (not_not.mpr hne)]
      · rw [get?_add s hne, if_neg (hc a ha)]
    | markStale id =>
      show (s.retire now id).get? a.id = _
      rw [get?_retire, if_neg (hc a ha)]

/-! ## 3. Runs -/

variable {clock : Call → Instant}

/-- The run, in the store without some records. -/
def Run.without {α : Type} (r : Run Store α) (as : List Alert) : Run Store α :=
  { r with final := r.final.without as }

/-- **A course that passes some records by runs without them as it runs with them.** -/
theorem Course.run_without {α : Type} {x : Course α} (hx : x.Only (Call.PassesBy as)) (s : Store) :
    x.run (.prompt clock notify) (s.without as) = (x.run (.prompt clock notify) s).without as := by
  induction x generalizing s with
  | done a => rfl
  | ask c next ih =>
    rw [run_ask_prompt, run_ask_prompt, s.answer_fst_without hx.1, s.answer_snd_without hx.1,
      ih _ (hx.2 _)]
    rfl

/-- **It leaves them as they are.** -/
theorem Course.get?_run_of_passesBy {α : Type} {x : Course α} (hx : x.Only (Call.PassesBy as))
    (s : Store) {a : Alert} (ha : a ∈ as) :
    (x.run (.prompt clock notify) s).final.get? a.id = s.get? a.id := by
  induction x generalizing s with
  | done b => rfl
  | ask c next ih =>
    rw [run_ask_prompt]
    exact (ih _ (hx.2 _) _).trans (s.get?_answer_of_passesBy hx.1 ha)

end AlertLedger
