import AlertLedger.Store
import Mathlib.Data.List.Nodup

/-!
# What a store holds

A store is read through `get?`, and this file says everything about it in these terms:

* `get?_eq_some_iff`: the record under an id is the member with that id, so there is one at most;
* `eq_of_get?_eq`: two stores that find the same under every id are the same store;
* `upsert_eq`, `markStale_eq`: when a write is refused, and what it comes to otherwise;
* `get?_add`, `get?_retire`: what one write changes;
* `get?_foldl_add_of_mem`, `get?_foldl_add_of_not_mem`, `get?_foldl_retire`: what a row of writes
  changes. A record retired twice is as it was when retired once (`retired_retired`), so in a row
  of retirements repetitions do not count.
-/

namespace AlertLedger.Store

/-! ## 1. Records and their ids -/

theorem nodup_ids (s : Store) : (s.records.map (·.id)).Nodup := by
  rw [List.nodup_iff_pairwise_ne, List.pairwise_map]
  refine s.ascending.imp fun h e => ?_
  rw [e] at h
  exact String.lt_irrefl _ h

theorem nodup_records (s : Store) : s.records.Nodup := s.nodup_ids.of_map

theorem eq_of_id_eq {s : Store} {a b : Alert} (ha : a ∈ s.records) (hb : b ∈ s.records)
    (h : a.id = b.id) : a = b :=
  List.inj_on_of_nodup_map s.nodup_ids ha hb h

/-- **The record under an id is the member with that id.** -/
theorem get?_eq_some_iff {s : Store} {id : String} {a : Alert} :
    s.get? id = some a ↔ a ∈ s.records ∧ a.id = id := by
  constructor
  · intro h
    exact ⟨List.mem_of_find?_eq_some h, by simpa using List.find?_some h⟩
  · rintro ⟨ha, rfl⟩
    cases h : s.get? a.id with
    | none =>
      have hne := List.find?_eq_none.mp h a ha
      simp at hne
    | some b =>
      have hb : b.id = a.id := by simpa using List.find?_some h
      rw [eq_of_id_eq (List.mem_of_find?_eq_some h) ha hb]

theorem get?_of_mem {s : Store} {a : Alert} (h : a ∈ s.records) : s.get? a.id = some a :=
  get?_eq_some_iff.mpr ⟨h, rfl⟩

theorem mem_of_get? {s : Store} {id : String} {a : Alert} (h : s.get? id = some a) :
    a ∈ s.records :=
  (get?_eq_some_iff.mp h).1

theorem id_of_get? {s : Store} {id : String} {a : Alert} (h : s.get? id = some a) : a.id = id :=
  (get?_eq_some_iff.mp h).2

theorem eq_of_records_eq {s t : Store} (hd : s.denied = t.denied) (h : s.records = t.records) :
    s = t := by
  obtain ⟨rs, d, _, _⟩ := s
  obtain ⟨rt, e, _, _⟩ := t
  subst hd h
  rfl

/-- A store is determined by its records, in whatever order, and by whether access is revoked. -/
theorem eq_of_mem_iff {s t : Store} (hd : s.denied = t.denied)
    (h : ∀ a, a ∈ s.records ↔ a ∈ t.records) : s = t := by
  have hperm := (List.perm_ext_iff_of_nodup s.nodup_records t.nodup_records).mpr h
  refine eq_of_records_eq hd (hperm.eq_of_pairwise (fun a b _ _ hab hba => ?_) s.ascending
    t.ascending)
  exact absurd (String.lt_trans hab hba) (String.lt_irrefl _)

/-- **A store is determined by what it finds under each id**, and by whether access is revoked. -/
theorem eq_of_get?_eq {s t : Store} (hd : s.denied = t.denied) (h : ∀ id, s.get? id = t.get? id) :
    s = t := by
  refine eq_of_mem_iff hd fun a => ?_
  have hs : s.get? a.id = some a ↔ a ∈ s.records := by simp [get?_eq_some_iff]
  have ht : t.get? a.id = some a ↔ a ∈ t.records := by simp [get?_eq_some_iff]
  rw [← hs, ← ht, h]

/-! ## 2. One write -/

@[simp] theorem denied_add (s : Store) (a : Alert) : (s.add a).denied = s.denied := by
  unfold add
  split <;> rfl

/-- A record is found under its id once it has been added. -/
theorem get?_add (s : Store) {a : Alert} (h : a.id ≠ "") (id : String) :
    (s.add a).get? id = if id = a.id then some a else s.get? id := by
  rw [add, dif_pos h, get?_put]

theorem retired_of_resolved {now : Instant} {a : Alert} (h : a.status = .resolved) :
    retired now a = a := if_pos h

theorem retired_of_not_resolved {now : Instant} {a : Alert} (h : a.status ≠ .resolved) :
    retired now a = a.resolve now := if_neg h

theorem status_retired (now : Instant) (a : Alert) : (retired now a).status = .resolved := by
  by_cases h : a.status = .resolved
  · rw [retired_of_resolved h, h]
  · rw [retired_of_not_resolved h]
    rfl

/-- A record retired once more stays as it is. -/
theorem retired_retired (now later : Instant) (a : Alert) :
    retired later (retired now a) = retired now a :=
  retired_of_resolved (status_retired now a)

/-- The store with the record under an id retired, if there is one. -/
def retire (now : Instant) (s : Store) (id : String) : Store :=
  match s.get? id with
  | none => s
  | some a => s.add (retired now a)

theorem retire_of_none {s : Store} {id : String} (h : s.get? id = none) (now : Instant) :
    s.retire now id = s := by
  rw [retire, h]

theorem retire_of_some {s : Store} {id : String} {a : Alert} (h : s.get? id = some a)
    (now : Instant) : s.retire now id = s.add (retired now a) := by
  rw [retire, h]

theorem id_retired_ne {s : Store} {id : String} {a : Alert} (h : s.get? id = some a)
    (now : Instant) : (retired now a).id ≠ "" := by
  rw [id_retired]
  exact s.named a (mem_of_get? h)

@[simp] theorem denied_retire (now : Instant) (s : Store) (id : String) :
    (s.retire now id).denied = s.denied := by
  cases h : s.get? id with
  | none => rw [retire_of_none h]
  | some a => rw [retire_of_some h, denied_add]

theorem get?_retire (now : Instant) (s : Store) (id x : String) :
    (s.retire now id).get? x = if x = id then (s.get? x).map (retired now) else s.get? x := by
  cases h : s.get? id with
  | none =>
    rw [retire_of_none h]
    split
    · rename_i e
      rw [e, h]
      rfl
    · rfl
  | some a =>
    rw [retire_of_some h, get?_add s (id_retired_ne h now), id_retired, id_of_get? h]
    split
    · rename_i e
      rw [e, h]
      rfl
    · rfl

/-- Where the record under an id is resolved, there is nothing to retire. -/
theorem retire_of_resolved {s : Store} {id : String} {a : Alert} (h : s.get? id = some a)
    (hres : a.status = .resolved) (now : Instant) : s.retire now id = s := by
  refine eq_of_get?_eq (denied_retire now s id) fun x => ?_
  rw [get?_retire]
  split
  · rename_i e
    rw [e, h, Option.map_some, retired_of_resolved hres]
  · rfl

/-- A search lists what it selects, where access is granted. -/
theorem search_eq_select {s : Store} (hs : s.denied = false) (q : Query) :
    s.search q = .ok (s.select q) := by
  rw [search, if_neg (by simp [hs])]

/-- What comes of writing a record. -/
theorem upsert_eq (s : Store) (a : Alert) :
    s.upsert a = if s.denied then .error accessRevoked
      else if a.id = "" then .error idMissing else .ok (s.add a) := by
  by_cases ha : a.id = ""
  · simp [upsert, ha]
  · simp [upsert, add, ha]

/-- What comes of marking a record stale. -/
theorem markStale_eq (s : Store) (id : String) (now : Instant) :
    s.markStale id now = if s.denied then .error accessRevoked
      else if s.get? id = none then .error (.notFound id) else .ok (s.retire now id) := by
  unfold markStale
  refine if_congr Iff.rfl rfl ?_
  split
  · rename_i h
    rw [if_pos h]
  · rename_i a h
    rw [if_neg (by simp [h]), retire_of_some h, add, dif_pos (id_retired_ne h now)]

/-- Writing a record adds it, where access is granted and the record has an id. -/
theorem upsert_eq_add {s : Store} {a : Alert} (hs : s.denied = false) (ha : a.id ≠ "") :
    s.upsert a = .ok (s.add a) := by
  rw [upsert_eq, if_neg (by simp [hs]), if_neg ha]

/-- Marking a record stale retires it, where access is granted and the record is there. -/
theorem markStale_eq_retire {s : Store} {id : String} {a : Alert} (hs : s.denied = false)
    (ha : s.get? id = some a) (now : Instant) : s.markStale id now = .ok (s.retire now id) := by
  rw [markStale_eq, if_neg (by simp [hs]), if_neg (by simp [ha])]

/-! ## 3. Many writes -/

@[simp] theorem denied_foldl_add (as : List Alert) (s : Store) :
    (as.foldl add s).denied = s.denied := by
  induction as generalizing s with
  | nil => rfl
  | cons a as ih => rw [List.foldl_cons, ih, denied_add]

@[simp] theorem denied_foldl_retire (clock : String → Instant) (ids : List String) (s : Store) :
    (ids.foldl (fun s id => s.retire (clock id) id) s).denied = s.denied := by
  induction ids generalizing s with
  | nil => rfl
  | cons id ids ih => rw [List.foldl_cons, ih, denied_retire]

/-- Under an id that none of the records added has, the store finds what it found before. -/
theorem get?_foldl_add_of_not_mem {as : List Alert} {id : String} (h : ∀ a ∈ as, a.id ≠ id)
    (s : Store) : (as.foldl add s).get? id = s.get? id := by
  induction as generalizing s with
  | nil => rfl
  | cons a as ih =>
    rw [List.foldl_cons, ih fun b hb => h b (List.mem_cons_of_mem _ hb)]
    by_cases ha : a.id = ""
    · rw [add, dif_neg (not_not.mpr ha)]
    · rw [get?_add s ha, if_neg fun e => h a List.mem_cons_self e.symm]

/-- Under the id of a record added, the store finds this record, if no other has the id. -/
theorem get?_foldl_add_of_mem {as : List Alert} {a : Alert} (ha : a ∈ as) (hne : a.id ≠ "")
    (huniq : ∀ b ∈ as, b.id = a.id → b = a) (s : Store) :
    (as.foldl add s).get? a.id = some a := by
  induction as generalizing s with
  | nil => exact absurd ha List.not_mem_nil
  | cons b as ih =>
    rw [List.foldl_cons]
    by_cases hmem : a ∈ as
    · exact ih hmem (fun c hc => huniq c (List.mem_cons_of_mem _ hc)) _
    · have hba : b = a := ((List.mem_cons.mp ha).resolve_right hmem).symm
      subst hba
      rw [get?_foldl_add_of_not_mem, get?_add s hne, if_pos rfl]
      intro c hc e
      exact hmem (huniq c (List.mem_cons_of_mem _ hc) e ▸ hc)

/-- Under an id that has been retired, the store finds the record retired by the clock of its id. -/
theorem get?_foldl_retire (clock : String → Instant) (ids : List String) (s : Store) (x : String) :
    (ids.foldl (fun s id => s.retire (clock id) id) s).get? x =
      if x ∈ ids then (s.get? x).map (retired (clock x)) else s.get? x := by
  induction ids generalizing s with
  | nil => simp
  | cons id ids ih =>
    rw [List.foldl_cons, ih, get?_retire]
    by_cases hx : x = id
    · subst hx
      cases h : s.get? x with
      | none => simp
      | some a => simp [retired_retired]
    · simp [hx]

end AlertLedger.Store
