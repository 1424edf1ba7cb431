import AlertLedger.Plan
import AlertLedger.Proofs.Store.Contents

/-!
# The order in which a store lists its records

A search lists what it finds by first observation and then by id. The order is total
(`listedBefore_total`) and tells records of different ids apart (`listedBefore_antisymm`), so the
listing does not depend on how the store keeps its records. Two statements carry the rest:

* `mem_select`: what is listed;
* `standing?_select_eq_some_iff`: the record that stands for a key is the first of the matching
  records with that key, said without the listing (`Stands`).
-/

namespace AlertLedger

namespace Alert

/-! ## 1. The order -/

theorem listedBefore_iff {a b : Alert} :
    a.listedBefore b = true ↔ a.time < b.time ∨ (a.time = b.time ∧ a.id ≤ b.id) := by
  simp [listedBefore]

theorem listedBefore_refl (a : Alert) : a.listedBefore a = true :=
  listedBefore_iff.mpr (.inr ⟨rfl, String.le_refl _⟩)

theorem listedBefore_total (a b : Alert) : (a.listedBefore b || b.listedBefore a) = true := by
  rw [Bool.or_eq_true, listedBefore_iff, listedBefore_iff]
  rcases Int.lt_trichotomy a.time.rank b.time.rank with h | h | h
  · exact .inl (.inl h)
  · have e := Instant.rank_injective h
    rcases String.le_total a.id b.id with hid | hid
    · exact .inl (.inr ⟨e, hid⟩)
    · exact .inr (.inr ⟨e.symm, hid⟩)
  · exact .inr (.inl h)

theorem listedBefore_trans (a b c : Alert) (hab : a.listedBefore b = true)
    (hbc : b.listedBefore c = true) : a.listedBefore c = true := by
  rw [listedBefore_iff] at *
  rcases hab with hab | ⟨e, hab⟩ <;> rcases hbc with hbc | ⟨e', hbc⟩
  · exact .inl (Int.lt_trans hab hbc)
  · exact .inl (e' ▸ hab)
  · exact .inl (e ▸ hbc)
  · exact .inr ⟨e.trans e', String.le_trans hab hbc⟩

theorem listedBefore_antisymm {a b : Alert} (hab : a.listedBefore b = true)
    (hba : b.listedBefore a = true) : a.id = b.id := by
  rw [listedBefore_iff] at *
  have irr : ∀ s t : Instant, s < t → ¬ t < s := fun s t h k =>
    Int.lt_irrefl _ (Int.lt_trans (Instant.lt_iff.mp h) (Instant.lt_iff.mp k))
  rcases hab with hab | ⟨e, hab⟩ <;> rcases hba with hba | ⟨e', hba⟩
  · exact absurd hba (irr _ _ hab)
  · exact absurd (e' ▸ hab) (irr _ _ (e' ▸ hab))
  · exact absurd (e ▸ hba) (irr _ _ (e ▸ hba))
  · exact String.le_antisymm hab hba

end Alert

namespace Store

/-! ## 2. What a search lists -/

theorem mem_select {s : Store} {q : Query} {a : Alert} :
    a ∈ s.select q ↔ a ∈ s.records ∧ q.isMatch a = true := by
  rw [select, List.mem_mergeSort, List.mem_filter]

theorem nodup_select (s : Store) (q : Query) : (s.select q).Nodup :=
  (List.mergeSort_perm _ _).nodup_iff.mpr (s.nodup_records.filter _)

theorem pairwise_select (s : Store) (q : Query) :
    (s.select q).Pairwise fun a b => a.listedBefore b = true :=
  List.pairwise_mergeSort Alert.listedBefore_trans Alert.listedBefore_total _

/-- A search finds the same in two stores that have the same matching records. -/
theorem select_congr {s t : Store} {q : Query}
    (h : ∀ a, q.isMatch a = true → (a ∈ s.records ↔ a ∈ t.records)) : s.select q = t.select q := by
  have hmem : ∀ a, a ∈ s.select q ↔ a ∈ t.select q := by
    intro a
    rw [mem_select, mem_select]
    exact and_congr_left fun hq => h a hq
  have hperm := (List.perm_ext_iff_of_nodup (s.nodup_select q) (t.nodup_select q)).mpr hmem
  refine hperm.eq_of_pairwise (fun a b ha hb hab hba => ?_) (s.pairwise_select q)
    (t.pairwise_select q)
  have hb' := (mem_select.mp ((hmem b).mpr hb)).1
  exact eq_of_id_eq (mem_select.mp ha).1 hb' (Alert.listedBefore_antisymm hab hba)

/-- A write concerns no query that matches neither the record written nor the one before it. -/
theorem select_add {s : Store} {q : Query} {a : Alert} (ha : q.isMatch a = false)
    (hold : ∀ r, s.get? a.id = some r → q.isMatch r = false) : (s.add a).select q = s.select q := by
  by_cases hne : a.id = ""
  · rw [add, dif_neg (not_not.mpr hne)]
  refine select_congr fun r hr => ?_
  have hiff : ∀ t : Store, r ∈ t.records ↔ t.get? r.id = some r := by
    intro t
    simp [get?_eq_some_iff]
  rw [hiff, hiff, get?_add s hne]
  split
  · rename_i e
    refine ⟨fun h => ?_, fun h => ?_⟩
    · rw [← Option.some.inj h, ha] at hr
      cases hr
    · rw [e] at h
      rw [hold r h] at hr
      cases hr
  · rfl

theorem select_foldl_add {s : Store} {q : Query} {as : List Alert}
    (has : ∀ a ∈ as, q.isMatch a = false)
    (hold : ∀ a ∈ as, ∀ r, s.get? a.id = some r → q.isMatch r = false) :
    (as.foldl add s).select q = s.select q := by
  induction as generalizing s with
  | nil => rfl
  | cons a as ih =>
    have ha := has a List.mem_cons_self
    have hmem : ∀ b ∈ as, b ∈ a :: as := fun b => List.mem_cons_of_mem a
    rw [List.foldl_cons, ih (fun b hb => has b (hmem b hb)), select_add ha
      (hold a List.mem_cons_self)]
    intro b hb r hr
    by_cases hne : a.id = ""
    · rw [add, dif_neg (not_not.mpr hne)] at hr
      exact hold b (hmem b hb) r hr
    · rw [get?_add s hne] at hr
      split at hr
      · rw [← Option.some.inj hr]
        exact ha
      · exact hold b (hmem b hb) r hr

/-! ## 3. The record that stands for a key -/

/-- A record that a query matches and that is listed before all others of its finding. -/
structure Stands (s : Store) (q : Query) (r : Alert) : Prop where
  mem : r ∈ s.records
  isMatch : q.isMatch r = true
  first : ∀ c ∈ s.records, q.isMatch c = true → c.key = r.key → r.listedBefore c = true

theorem Stands.unique {s : Store} {q : Query} {a b : Alert} (ha : s.Stands q a)
    (hb : s.Stands q b) (h : a.key = b.key) : a = b :=
  eq_of_id_eq ha.mem hb.mem <|
    Alert.listedBefore_antisymm (ha.first b hb.mem hb.isMatch h.symm)
      (hb.first a ha.mem ha.isMatch h)

theorem stands_of_standing? {s : Store} {q : Query} {k : Key} {r : Alert}
    (h : Plan.standing? (s.select q) k = some r) : s.Stands q r ∧ r.key = k := by
  obtain ⟨hk, as, bs, hsplit, has⟩ := List.find?_eq_some_iff_append.mp h
  have hk' : r.key = k := by simpa using hk
  have hr : r ∈ s.select q := hsplit ▸ List.mem_append_right as List.mem_cons_self
  refine ⟨⟨(mem_select.mp hr).1, (mem_select.mp hr).2, fun c hc hq e => ?_⟩, hk'⟩
  have hmem : c ∈ as ++ r :: bs := hsplit ▸ mem_select.mpr ⟨hc, hq⟩
  have hsorted := s.pairwise_select q
  rw [hsplit, List.pairwise_append, List.pairwise_cons] at hsorted
  rcases List.mem_append.mp hmem with hc' | hc'
  · have hne := has c hc'
    simp [e, hk'] at hne
  · rcases List.mem_cons.mp hc' with rfl | hc'
    · exact Alert.listedBefore_refl c
    · exact hsorted.2.1.1 c hc'

/-- A key stands for nothing only where no matching record has it. -/
theorem standing?_eq_none_iff {s : Store} {q : Query} {k : Key} :
    Plan.standing? (s.select q) k = none ↔
      ∀ c ∈ s.records, q.isMatch c = true → c.key ≠ k := by
  simp only [Plan.standing?, List.find?_eq_none, mem_select, decide_eq_true_eq]
  exact ⟨fun h c hc hq => h c ⟨hc, hq⟩, fun h c hc => h c hc.1 hc.2⟩

/-- **The record that stands for a key is the first matching record that has it.** -/
theorem standing?_select_eq_some_iff {s : Store} {q : Query} {k : Key} {r : Alert} :
    Plan.standing? (s.select q) k = some r ↔ s.Stands q r ∧ r.key = k := by
  refine ⟨stands_of_standing?, fun ⟨hr, hk⟩ => ?_⟩
  cases h : Plan.standing? (s.select q) k with
  | none => exact absurd hk (standing?_eq_none_iff.mp h r hr.mem hr.isMatch)
  | some b =>
    obtain ⟨hb, hb'⟩ := stands_of_standing? h
    rw [hb.unique hr (hb'.trans hk.symm)]

/-- Where a matching record has a key, one stands for it. -/
theorem exists_stands {s : Store} {q : Query} {c : Alert} (hc : c ∈ s.records)
    (hq : q.isMatch c = true) : ∃ r, s.Stands q r ∧ r.key = c.key := by
  cases h : Plan.standing? (s.select q) c.key with
  | none => exact absurd rfl (standing?_eq_none_iff.mp h c hc hq)
  | some r => exact ⟨r, stands_of_standing? h⟩

/-! ## 4. A store and its snapshot -/

theorem mem_snapshot {s : Store} {a : Alert} : a ∈ s.snapshot ↔ a ∈ s.records := by
  simp [snapshot, mem_select]

theorem setDenied_of_eq {s : Store} {b : Bool} (h : s.denied = b) : s.setDenied b = s := by
  subst h
  rfl

/-- **A store is made again from its snapshot**, with access granted. -/
theorem ofList_snapshot (s : Store) : ofList s.snapshot = s.setDenied false := by
  have hdenied : (ofList s.snapshot).denied = false := denied_foldl_add _ _
  refine eq_of_get?_eq hdenied fun id => ?_
  show (s.snapshot.foldl add empty).get? id = s.get? id
  cases h : s.get? id with
  | none =>
    refine get?_foldl_add_of_not_mem (fun a ha e => ?_) empty
    rw [← e, get?_of_mem (mem_snapshot.mp ha)] at h
    cases h
  | some a =>
    have hmem := mem_of_get? h
    rw [← id_of_get? h]
    refine get?_foldl_add_of_mem (mem_snapshot.mpr hmem) (s.named a hmem) (fun b hb e => ?_) empty
    exact eq_of_id_eq (mem_snapshot.mp hb) hmem e

end Store

end AlertLedger
