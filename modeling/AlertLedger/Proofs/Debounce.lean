import AlertLedger.Debounce
import AlertLedger.Proofs.Time.Instant

/-!
# What the quiet window goes by

The record resolved last is one with the latest time of resolution (`lastResolved?_spec`), so an
announcement that is let through keeps the window from every resolution of its finding that is not
later than the last (`exists_of_mayAnnounce`). Outside leap seconds one resolution inside the window
is enough to hold an announcement back, whether or not it is the last
(`mayAnnounce_lastResolved?_eq_false_iff`).
-/

namespace AlertLedger

/-- Of two records resolved at some time the later one is resolved no sooner than either. -/
theorem laterResolved_spec {a b : Alert} {s t : Instant} (ha : a.resolvedAt = some s)
    (hb : b.resolvedAt = some t) : (laterResolved a b = a ∨ laterResolved a b = b) ∧
      ∃ u, (laterResolved a b).resolvedAt = some u ∧ s ≤ u ∧ t ≤ u := by
  rw [laterResolved, ha, hb]
  by_cases h : t < s
  · simp only [if_pos h]
    exact ⟨.inl trivial, s, ha, Instant.le_refl s, Int.le_of_lt h⟩
  · simp only [if_neg h]
    exact ⟨.inr trivial, t, hb, Instant.not_lt_iff.mp h, Instant.le_refl t⟩

theorem foldl_laterResolved_spec {as : List Alert} (has : ∀ b ∈ as, b.resolvedAt.isSome = true)
    {a : Alert} {s : Instant} (ha : a.resolvedAt = some s) :
    as.foldl laterResolved a ∈ a :: as ∧ ∃ u, (as.foldl laterResolved a).resolvedAt = some u ∧
      s ≤ u ∧ ∀ b ∈ as, ∀ t, b.resolvedAt = some t → t ≤ u := by
  induction as generalizing a s with
  | nil =>
    exact ⟨List.mem_cons_self, s, ha, Instant.le_refl s, fun b hb => absurd hb List.not_mem_nil⟩
  | cons b as ih =>
    obtain ⟨t, hb⟩ := Option.isSome_iff_exists.mp (has b List.mem_cons_self)
    obtain ⟨hlater, u, hu, hsu, htu⟩ := laterResolved_spec ha hb
    obtain ⟨hmem, v, hv, huv, hrest⟩ := ih (fun c hc => has c (List.mem_cons_of_mem b hc)) hu
    rw [List.foldl_cons]
    refine ⟨?_, v, hv, Instant.le_trans hsu huv, fun c hc t' ht' => ?_⟩
    · rcases List.mem_cons.mp hmem with h | h
      · rw [h]
        rcases hlater with e | e <;> rw [e] <;> simp
      · exact List.mem_cons_of_mem a (List.mem_cons_of_mem b h)
    · rcases List.mem_cons.mp hc with rfl | hc
      · rw [hb] at ht'
        exact Option.some.inj ht' ▸ Instant.le_trans htu huv
      · exact hrest c hc t' ht'

/-- **The record resolved last has the latest time of resolution.** -/
theorem lastResolved?_spec {rs : List Alert} {r : Alert} {t : Instant} (hr : r ∈ rs)
    (ht : r.resolvedAt = some t) : ∃ q ∈ rs, lastResolved? rs = some q ∧
      ∃ u, q.resolvedAt = some u ∧ t ≤ u := by
  have hmem : r ∈ rs.filter (·.resolvedAt.isSome) := List.mem_filter.mpr ⟨hr, by simp [ht]⟩
  have hstamped : ∀ b ∈ rs.filter (·.resolvedAt.isSome), b.resolvedAt.isSome = true := fun b hb =>
    (List.mem_filter.mp hb).2
  have hsub : ∀ b ∈ rs.filter (·.resolvedAt.isSome), b ∈ rs := fun b hb =>
    (List.mem_filter.mp hb).1
  unfold lastResolved?
  generalize rs.filter (·.resolvedAt.isSome) = stamped at hmem hstamped hsub
  cases stamped with
  | nil => cases hmem
  | cons a as =>
    obtain ⟨s, ha⟩ := Option.isSome_iff_exists.mp (hstamped a List.mem_cons_self)
    obtain ⟨hfold, u, hu, hsu, hrest⟩ := foldl_laterResolved_spec
      (fun b hb => hstamped b (List.mem_cons_of_mem a hb)) ha
    refine ⟨_, hsub _ hfold, rfl, u, hu, ?_⟩
    rcases List.mem_cons.mp hmem with rfl | hmem
    · rw [ha] at ht
      exact Option.some.inj ht ▸ hsu
    · exact hrest r hmem t ht

theorem mem_of_lastResolved? {rs : List Alert} {q : Alert} (h : lastResolved? rs = some q) :
    q ∈ rs := by
  cases hrs : rs.filter (·.resolvedAt.isSome) with
  | nil =>
    rw [lastResolved?, hrs] at h
    cases h
  | cons a as =>
    have ha : a ∈ rs.filter (·.resolvedAt.isSome) := hrs ▸ List.mem_cons_self
    obtain ⟨hmem, hstamped⟩ := List.mem_filter.mp ha
    obtain ⟨t, ht⟩ := Option.isSome_iff_exists.mp hstamped
    obtain ⟨p, hp, hlast, _⟩ := lastResolved?_spec hmem ht
    rw [hlast] at h
    exact Option.some.inj h ▸ hp

/-- **One resolution inside the window is enough.** Of several records of a finding the one resolved
last lies inside the window as soon as any of them does. -/
theorem mayAnnounce_lastResolved?_eq_false_iff {window : Span} {a : Alert} {rs : List Alert}
    {now : Instant} (hkey : ∀ r ∈ rs, r.key = a.key) (hnow : now.isLeap = false)
    (hleap : ∀ r ∈ rs, ∀ t, r.resolvedAt = some t → t.isLeap = false) :
    mayAnnounce window a (lastResolved? rs) now = false ↔ window.isZero = false ∧
      ∃ r ∈ rs, ∃ t, r.resolvedAt = some t ∧ now.since t < window.nanos := by
  constructor
  · intro h
    cases hlast : lastResolved? rs with
    | none =>
      rw [hlast, mayAnnounce_none] at h
      cases h
    | some q =>
      rw [hlast, mayAnnounce_eq_false_iff] at h
      exact ⟨h.1, q, mem_of_lastResolved? hlast, h.2.2⟩
  · rintro ⟨hw, r, hr, t, ht, hlt⟩
    obtain ⟨q, hq, hlast, u, hu, htu⟩ := lastResolved?_spec hr ht
    have hle : now.since u ≤ now.since t :=
      Instant.since_le_since hnow (hleap r hr t ht) (hleap q hq u hu) htu
    rw [hlast, mayAnnounce_eq_false_iff]
    exact ⟨hw, hkey q hq, u, hu, Int.lt_of_le_of_lt hle hlt⟩

/-- **What is let through keeps the window** from a resolution no earlier than any given one. -/
theorem exists_of_mayAnnounce {window : Span} {a : Alert} {rs : List Alert} {now : Instant}
    (hw : window.isZero = false) (h : mayAnnounce window a (lastResolved? rs) now = true)
    (hkey : ∀ r ∈ rs, r.key = a.key) {r : Alert} {t : Instant} (hr : r ∈ rs)
    (ht : r.resolvedAt = some t) : ∃ q ∈ rs, ∃ u, q.resolvedAt = some u ∧ t ≤ u ∧
      (window.nanos : Int) ≤ now.since u := by
  obtain ⟨q, hq, hlast, u, hu, htu⟩ := lastResolved?_spec hr ht
  refine ⟨q, hq, u, hu, htu, Int.not_lt.mp fun hlt => ?_⟩
  have hfalse : mayAnnounce window a (some q) now = false :=
    mayAnnounce_eq_false_iff.mpr ⟨hw, hkey q hq, u, hu, hlt⟩
  rw [hlast, hfalse] at h
  cases h

end AlertLedger
