import AlertLedger.Proofs.Pass.Created

/-!
# What becomes of each record

A pass does one of three things to a record it has found: it lets it settle, it resolves it, or it
leaves it alone. `afterwards` is the record after a pass that nothing gets in the way of, said of
one record at a time. With the alerts created this describes the whole store:

* `get?_carriedOut_of_mem`: after any part of a plan, a record is as it was or as it would be
  afterwards, and which of the two it is depends on whether its own write was made;
* `get?_carriedOut_of_none`: where there was no record there is one only if it was created;
* `mem_fulfilled_iff`: after the whole plan (`fulfilled`) the records are those from before as they
  are afterwards, and the alerts created.
-/

namespace AlertLedger

/-- The store after records were written and others retired, each of these by the clock. -/
def Store.carriedOut (clock : Call → Instant) (s : Store) (written retired : List Alert) : Store :=
  (retired.map (·.id)).foldl (fun s id => s.retire (clock (.markStale id)) id)
    (written.foldl add s)

namespace Pass

variable {x : Pass} {s : Store} {clock : Call → Instant}

/-- The record after a pass that nothing gets in the way of, by the clock that stamps it when it is
retired. -/
def afterwards (x : Pass) (s : Store) (clock : Call → Instant) (r : Alert) : Alert :=
  if (Query.inScope x.filters).isMatch r then
    match Plan.detection? x.batch r.key with
    | none => r.resolve (clock (.markStale r.id))
    | some d =>
      if Plan.standing? (s.select (.inScope x.filters)) r.key = some r then r.settled d
      else r.resolve (clock (.markStale r.id))
  else r

/-! ## 1. The plan, record by record -/

theorem mem_updated_plan_iff {u : Alert} :
    u ∈ (x.plan s).updated ↔ ∃ r d, s.Stands (.inScope x.filters) r ∧
      Plan.detection? x.batch r.key = some d ∧ Alert.succeed r d = some u := by
  rw [plan, Plan.mem_updated_iff]
  constructor
  · rintro ⟨k, d, r, hd, hr, hu⟩
    obtain ⟨hstands, rfl⟩ := Store.standing?_select_eq_some_iff.mp hr
    exact ⟨r, d, hstands, hd, hu⟩
  · rintro ⟨r, d, hstands, hd, hu⟩
    exact ⟨r.key, d, r, hd, Store.standing?_select_eq_some_iff.mpr ⟨hstands, rfl⟩, hu⟩

theorem mem_stale_plan_iff {a : Alert} :
    a ∈ (x.plan s).stale ↔ a ∈ s.records ∧ (Query.inScope x.filters).isMatch a = true ∧
      ¬ (s.Stands (.inScope x.filters) a ∧ Plan.Detects x.batch a.key) := by
  rw [plan, Plan.mem_stale_iff (s.nodup_select _), Store.mem_select, and_assoc]
  have h : Plan.standing? (s.select (.inScope x.filters)) a.key = some a ↔
      s.Stands (.inScope x.filters) a := by
    rw [Store.standing?_select_eq_some_iff]
    exact and_iff_left rfl
  rw [ne_eq, h, not_and_or]

theorem mem_new_plan_iff {a : Alert} :
    a ∈ (x.plan s).new ↔ (a ∈ x.batch ∧ a.status = .attempted) ∨
      (Plan.detection? x.batch a.key = some a ∧
        ∀ c ∈ s.records, (Query.inScope x.filters).isMatch c = true → c.key ≠ a.key) := by
  rw [plan, Plan.mem_new_iff]
  refine or_congr_right ⟨?_, ?_⟩
  · rintro ⟨k, hd, hs⟩
    obtain rfl := Plan.key_of_detection? hd
    exact ⟨hd, Store.standing?_eq_none_iff.mp hs⟩
  · rintro ⟨hd, hs⟩
    exact ⟨a.key, hd, Store.standing?_eq_none_iff.mpr hs⟩

/-- Where the whole batch is in scope, new are the detections that no record in scope reports. -/
theorem mem_new_plan_iff_of_scoped (hsc : x.Scoped) {a : Alert} :
    a ∈ (x.plan s).new ↔ Plan.detection? x.batch a.key = some a ∧
      ∀ c ∈ s.records, (Query.inScope x.filters).isMatch c = true → c.key ≠ a.key := by
  rw [mem_new_plan_iff]
  exact or_iff_right fun ⟨hmem, hattempted⟩ => hsc.status_ne_attempted hmem hattempted

/-! ## 2. What afterwards comes to -/

theorem afterwards_of_not_isMatch {r : Alert} (h : (Query.inScope x.filters).isMatch r = false) :
    x.afterwards s clock r = r := by
  rw [afterwards, if_neg (by simp [h])]

theorem afterwards_of_stands {r d : Alert} (hr : s.Stands (.inScope x.filters) r)
    (hd : Plan.detection? x.batch r.key = some d) : x.afterwards s clock r = r.settled d := by
  have hs : Plan.standing? (s.select (.inScope x.filters)) r.key = some r :=
    Store.standing?_select_eq_some_iff.mpr ⟨hr, rfl⟩
  rw [afterwards, if_pos hr.isMatch, hd]
  simp only [hs, if_true]

theorem afterwards_of_mem_stale {r : Alert} (h : r ∈ (x.plan s).stale) :
    x.afterwards s clock r = r.resolve (clock (.markStale r.id)) := by
  obtain ⟨_, hq, hrest⟩ := mem_stale_plan_iff.mp h
  rw [afterwards, if_pos hq]
  cases hd : Plan.detection? x.batch r.key with
  | none => rfl
  | some d =>
    have hs : Plan.standing? (s.select (.inScope x.filters)) r.key ≠ some r := fun hs =>
      hrest ⟨(Store.standing?_select_eq_some_iff.mp hs).1, Plan.detects_of_detection? hd⟩
    simp only [hs, if_false]

theorem afterwards_eq (x : Pass) (s : Store) (clock : Call → Instant) (r : Alert) :
    x.afterwards s clock r = r ∨ x.afterwards s clock r = r.resolve (clock (.markStale r.id)) ∨
      ∃ d, Plan.detection? x.batch r.key = some d ∧ x.afterwards s clock r = r.settled d := by
  unfold afterwards
  split
  · split
    · exact .inr (.inl rfl)
    · rename_i d hd
      split
      · exact .inr (.inr ⟨d, hd, rfl⟩)
      · exact .inr (.inl rfl)
  · exact .inl rfl

theorem id_afterwards (x : Pass) (s : Store) (clock : Call → Instant) (r : Alert) :
    (x.afterwards s clock r).id = r.id := by
  rcases afterwards_eq x s clock r with e | e | ⟨d, _, e⟩
  · rw [e]
  · rw [e]
    rfl
  · rw [e, Alert.id_settled]

theorem time_afterwards (x : Pass) (s : Store) (clock : Call → Instant) (r : Alert) :
    (x.afterwards s clock r).time = r.time := by
  rcases afterwards_eq x s clock r with e | e | ⟨d, _, e⟩
  · rw [e]
  · rw [e]
    rfl
  · rw [e, Alert.time_settled]

theorem key_afterwards (x : Pass) (s : Store) (clock : Call → Instant) (r : Alert) :
    (x.afterwards s clock r).key = r.key := by
  rcases afterwards_eq x s clock r with e | e | ⟨d, hd, e⟩
  · rw [e]
  · rw [e, Alert.key_resolve]
  · have hkey := Plan.key_of_detection? hd
    rw [e, Alert.key_settled hkey.symm, hkey]

/-- **A record out of scope stays, a stale one is resolved, and one that stands for a finding
detected settles.** -/
theorem afterwards_cases (clock : Call → Instant) {r : Alert} (hr : r ∈ s.records) :
    ((Query.inScope x.filters).isMatch r = false ∧ x.afterwards s clock r = r) ∨
      (r ∈ (x.plan s).stale ∧ x.afterwards s clock r = r.resolve (clock (.markStale r.id))) ∨
      ∃ d, s.Stands (.inScope x.filters) r ∧ Plan.detection? x.batch r.key = some d ∧
        x.afterwards s clock r = r.settled d := by
  cases hq : (Query.inScope x.filters).isMatch r with
  | false => exact .inl ⟨rfl, afterwards_of_not_isMatch hq⟩
  | true =>
    by_cases hstale : r ∈ (x.plan s).stale
    · exact .inr (.inl ⟨hstale, afterwards_of_mem_stale hstale⟩)
    · have hstands : s.Stands (.inScope x.filters) r ∧ Plan.Detects x.batch r.key :=
        Classical.byContradiction fun h => hstale (mem_stale_plan_iff.mpr ⟨hr, hq, h⟩)
      obtain ⟨d, hd⟩ := Plan.detection?_of_detects hstands.2
      exact .inr (.inr ⟨d, hstands.1, hd, afterwards_of_stands hstands.1 hd⟩)

/-- A record that is neither to be written over nor to be retired is afterwards as it was. -/
theorem afterwards_of_untouched {r : Alert} (hr : r ∈ s.records)
    (hu : ∀ u ∈ (x.plan s).updated, u.id ≠ r.id) (hs : r ∉ (x.plan s).stale) :
    x.afterwards s clock r = r := by
  rcases afterwards_cases (x := x) clock hr with ⟨_, e⟩ | ⟨hstale, _⟩ | ⟨d, hstands, hd, e⟩
  · exact e
  · exact absurd hstale hs
  · rw [e, Alert.settled]
    cases hsucceed : Alert.succeed r d with
    | none => rfl
    | some u =>
      have hid : u.id = r.id := by rw [← Alert.settled_of_succeed hsucceed, Alert.id_settled]
      exact absurd hid (hu u (mem_updated_plan_iff.mpr ⟨r, d, hstands, hd, hsucceed⟩))

/-! ## 3. Part of a plan, record by record -/

/-- Records and alerts that belong to the plan of a pass for a store. -/
structure PartOf (x : Pass) (s : Store) (us ns ss : List Alert) : Prop where
  updated : ∀ u ∈ us, u ∈ (x.plan s).updated
  created : ∀ a ∈ ns, a ∈ x.created s
  stale : ∀ a ∈ ss, a ∈ (x.plan s).stale

variable {us ns ss : List Alert}

/-- A record that is written over is the one with the id of what is written. -/
theorem afterwards_of_mem_updated (clock : Call → Instant) {u : Alert}
    (hu : u ∈ (x.plan s).updated) :
    ∃ r ∈ s.records, r.id = u.id ∧ r ∉ (x.plan s).stale ∧ x.afterwards s clock r = u := by
  obtain ⟨r, d, hr, hd, hsucceed⟩ := mem_updated_plan_iff.mp hu
  have hsettled : r.settled d = u := Alert.settled_of_succeed hsucceed
  refine ⟨r, hr.mem, ?_, fun hstale => ?_, ?_⟩
  · rw [← hsettled, Alert.id_settled]
  · exact (mem_stale_plan_iff.mp hstale).2.2 ⟨hr, Plan.detects_of_detection? hd⟩
  · rw [afterwards_of_stands hr hd, hsettled]

theorem get?_of_mem_updated {u : Alert} (hu : u ∈ (x.plan s).updated) :
    ∃ r, s.get? u.id = some r := by
  obtain ⟨r, hr, hid, _⟩ := afterwards_of_mem_updated (fun _ => u.time) hu
  exact ⟨r, hid ▸ Store.get?_of_mem hr⟩

theorem id_of_mem_updated {u : Alert} (hu : u ∈ (x.plan s).updated) : u.id ≠ "" := by
  obtain ⟨r, hr⟩ := get?_of_mem_updated hu
  rw [← Store.id_of_get? hr]
  exact s.named r (Store.mem_of_get? hr)

theorem eq_of_id_eq_of_mem_updated {u v : Alert} (hu : u ∈ (x.plan s).updated)
    (hv : v ∈ (x.plan s).updated) (h : u.id = v.id) : u = v := by
  obtain ⟨r, hr, hru, _, hu'⟩ := afterwards_of_mem_updated (fun _ => u.time) hu
  obtain ⟨r', hr', hrv, _, hv'⟩ := afterwards_of_mem_updated (fun _ => u.time) hv
  have e : r = r' := Store.eq_of_id_eq hr hr' (hru.trans (h.trans hrv.symm))
  rw [← hu', ← hv', e]

/-- No two of the alerts that a pass writes have one id. -/
theorem PartOf.eq_of_id_eq (hx : x.Unnamed) (hf : x.DrawsFresh s) (h : PartOf x s us ns ss)
    {a b : Alert} (ha : a ∈ us ++ ns) (hb : b ∈ us ++ ns) (e : a.id = b.id) : a = b := by
  rcases List.mem_append.mp ha with ha | ha <;> rcases List.mem_append.mp hb with hb | hb
  · exact eq_of_id_eq_of_mem_updated (h.updated a ha) (h.updated b hb) e
  · obtain ⟨r, hr⟩ := get?_of_mem_updated (h.updated a ha)
    rw [e, get?_of_mem_created hx hf (h.created b hb)] at hr
    cases hr
  · obtain ⟨r, hr⟩ := get?_of_mem_updated (h.updated b hb)
    rw [← e, get?_of_mem_created hx hf (h.created a ha)] at hr
    cases hr
  · exact eq_of_id_eq_of_mem_created hx hf (h.created a ha) (h.created b hb) e

theorem PartOf.id_ne_empty (hf : x.DrawsFresh s) (h : PartOf x s us ns ss) {a : Alert}
    (ha : a ∈ us ++ ns) : a.id ≠ "" := by
  rcases List.mem_append.mp ha with ha | ha
  · exact id_of_mem_updated (h.updated a ha)
  · exact id_of_mem_created hf (h.created a ha)

/-- **After any part of a plan a record is as it would be afterwards if its own write was made,
and as it was if not.** -/
theorem get?_carriedOut_of_mem (clock : Call → Instant) (hx : x.Unnamed) (hf : x.DrawsFresh s)
    (h : PartOf x s us ns ss) {r : Alert} (hr : r ∈ s.records) :
    (s.carriedOut clock (us ++ ns) ss).get? r.id =
      if (∃ u ∈ us, u.id = r.id) ∨ r ∈ ss then some (x.afterwards s clock r) else some r := by
  have hget : s.get? r.id = some r := Store.get?_of_mem hr
  have hcreated : ∀ a ∈ ns, a.id ≠ r.id := by
    intro a ha e
    rw [← e, get?_of_mem_created hx hf (h.created a ha)] at hget
    cases hget
  have hstale : r.id ∈ ss.map (·.id) ↔ r ∈ ss := by
    refine ⟨fun hmem => ?_, List.mem_map_of_mem⟩
    obtain ⟨a, ha, e⟩ := List.mem_map.mp hmem
    rwa [← Store.eq_of_id_eq (mem_stale_plan_iff.mp (h.stale a ha)).1 hr e]
  rw [Store.carriedOut, Store.get?_foldl_retire]
  simp only [hstale]
  by_cases hu : ∃ u ∈ us, u.id = r.id
  · -- written over: then it is not stale, and nothing else is written under its id
    obtain ⟨u, hu, e⟩ := hu
    obtain ⟨r', hr', e', hnot, hafter⟩ := afterwards_of_mem_updated clock (h.updated u hu)
    obtain rfl : r' = r := Store.eq_of_id_eq hr' hr (e'.trans e)
    have hmem : u ∈ us ++ ns := List.mem_append_left ns hu
    have hwritten := Store.get?_foldl_add_of_mem hmem (h.id_ne_empty hf hmem)
      (fun b hb hid => h.eq_of_id_eq hx hf hb hmem hid) s
    rw [if_neg fun hss => hnot (h.stale _ hss), if_pos (.inl ⟨u, hu, e⟩), ← e, hwritten, hafter]
  · have hwritten : ∀ a ∈ us ++ ns, a.id ≠ r.id := by
      intro a ha e
      rcases List.mem_append.mp ha with ha | ha
      · exact hu ⟨a, ha, e⟩
      · exact hcreated a ha e
    rw [Store.get?_foldl_add_of_not_mem hwritten, hget]
    by_cases hss : r ∈ ss
    · have hactive : r.status ≠ .resolved := by
        rw [Query.status_of_isMatch_inScope (mem_stale_plan_iff.mp (h.stale r hss)).2.1]
        decide
      rw [if_pos hss, if_pos (.inr hss), Option.map_some, Store.retired_of_not_resolved hactive,
        afterwards_of_mem_stale (h.stale r hss)]
    · rw [if_neg hss, if_neg (not_or.mpr ⟨hu, hss⟩)]

/-- Where a store had no record, a part of a plan leaves what it creates. -/
theorem get?_carriedOut_of_none (hx : x.Unnamed) (hf : x.DrawsFresh s) (h : PartOf x s us ns ss)
    {id : String} (hid : s.get? id = none) {a : Alert} :
    (s.carriedOut clock (us ++ ns) ss).get? id = some a ↔ a ∈ ns ∧ a.id = id := by
  have hus : ∀ u ∈ us, u.id ≠ id := by
    intro u hu e
    obtain ⟨r, hr⟩ := get?_of_mem_updated (h.updated u hu)
    rw [e, hid] at hr
    cases hr
  have hss : id ∉ ss.map (·.id) := by
    intro hmem
    obtain ⟨b, hb, e⟩ := List.mem_map.mp hmem
    have hget := Store.get?_of_mem (mem_stale_plan_iff.mp (h.stale b hb)).1
    rw [e, hid] at hget
    cases hget
  rw [Store.carriedOut, Store.get?_foldl_retire, if_neg hss]
  by_cases hns : ∃ b ∈ ns, b.id = id
  · obtain ⟨b, hb, rfl⟩ := hns
    have hmem : b ∈ us ++ ns := List.mem_append_right us hb
    rw [Store.get?_foldl_add_of_mem hmem (h.id_ne_empty hf hmem)
      (fun c hc e => h.eq_of_id_eq hx hf hc hmem e) s, Option.some.injEq]
    constructor
    · rintro rfl
      exact ⟨hb, rfl⟩
    · rintro ⟨ha, e⟩
      exact h.eq_of_id_eq hx hf hmem (List.mem_append_right us ha) e.symm
  · have hwritten : ∀ b ∈ us ++ ns, b.id ≠ id := by
      intro b hb e
      rcases List.mem_append.mp hb with hb | hb
      · exact hus b hb e
      · exact hns ⟨b, hb, e⟩
    rw [Store.get?_foldl_add_of_not_mem hwritten, hid]
    constructor
    · intro e
      cases e
    · rintro ⟨ha, e⟩
      exact absurd ⟨a, ha, e⟩ hns

/-! ## 4. The whole plan -/

/-- The store once the whole plan of a pass is carried out, by the clock of its retirements. -/
def fulfilled (x : Pass) (s : Store) (clock : Call → Instant) : Store :=
  s.carriedOut clock ((x.plan s).updated ++ x.created s) (x.plan s).stale

theorem partOf_plan (x : Pass) (s : Store) :
    PartOf x s (x.plan s).updated (x.created s) (x.plan s).stale :=
  ⟨fun _ => id, fun _ => id, fun _ => id⟩

@[simp] theorem denied_fulfilled (x : Pass) (s : Store) (clock : Call → Instant) :
    (x.fulfilled s clock).denied = s.denied := by
  rw [fulfilled, Store.carriedOut, Store.denied_foldl_retire, Store.denied_foldl_add]

theorem get?_fulfilled_of_mem (clock : Call → Instant) (hx : x.Unnamed) (hf : x.DrawsFresh s)
    {r : Alert} (hr : r ∈ s.records) :
    (x.fulfilled s clock).get? r.id = some (x.afterwards s clock r) := by
  rw [fulfilled, get?_carriedOut_of_mem clock hx hf (partOf_plan x s) hr]
  split
  · rfl
  · rename_i h
    obtain ⟨hu, hs⟩ := not_or.mp h
    have huntouched : x.afterwards s clock r = r :=
      afterwards_of_untouched hr (fun u hmem e => hu ⟨u, hmem, e⟩) hs
    rw [huntouched]

theorem get?_fulfilled_of_none (hx : x.Unnamed) (hf : x.DrawsFresh s) {id : String}
    (hid : s.get? id = none) {a : Alert} :
    (x.fulfilled s clock).get? id = some a ↔ a ∈ x.created s ∧ a.id = id :=
  get?_carriedOut_of_none hx hf (partOf_plan x s) hid

/-- **After the whole plan the records are those from before as they are afterwards, and the
alerts created.** -/
theorem mem_fulfilled_iff (hx : x.Unnamed) (hf : x.DrawsFresh s) {a : Alert} :
    a ∈ (x.fulfilled s clock).records ↔
      (∃ r ∈ s.records, x.afterwards s clock r = a) ∨ a ∈ x.created s := by
  constructor
  · intro ha
    have hget := Store.get?_of_mem ha
    cases h : s.get? a.id with
    | none =>
      rw [get?_fulfilled_of_none hx hf h] at hget
      exact .inr hget.1
    | some r =>
      have hr := Store.mem_of_get? h
      rw [← Store.id_of_get? h, get?_fulfilled_of_mem clock hx hf hr] at hget
      exact .inl ⟨r, hr, Option.some.inj hget⟩
  · rintro (⟨r, hr, rfl⟩ | ha)
    · exact Store.mem_of_get? (get?_fulfilled_of_mem clock hx hf hr)
    · have hnone := get?_of_mem_created hx hf ha
      exact Store.mem_of_get? ((get?_fulfilled_of_none hx hf hnone).mpr ⟨ha, rfl⟩)

end Pass

end AlertLedger
