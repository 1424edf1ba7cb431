import AlertLedger.Proofs.Alert.WellFormed
import AlertLedger.Proofs.Pass.Lifecycle

/-!
# Well-formed stores

A store of well-formed records stays one through any series of passes over well-formed alerts, and
the notifier is handed well-formed alerts alone (`wellFormed_history`). Nothing is assumed of ids
here: alerts may come with ids of their own, one may be written over another, and what fails may
fail with or without effect. It is enough that everything a plan is about to write is well formed
(`wellFormed_of_mem_updated`, `wellFormed_of_mem_created`), and that a call puts no other record in
the store (`Store.forall_mem_effect`).
-/

namespace AlertLedger

/-! ## 1. Records of a store -/

namespace Store

theorem mem_add {s : Store} {a r : Alert} (h : r ∈ (s.add a).records) : r = a ∨ r ∈ s.records := by
  unfold add at h
  split at h
  · exact mem_place h
  · exact .inr h

theorem mem_retire {s : Store} {now : Instant} {id : String} {r : Alert}
    (h : r ∈ (s.retire now id).records) : (∃ a ∈ s.records, r = retired now a) ∨ r ∈ s.records := by
  cases hget : s.get? id with
  | none =>
    rw [retire_of_none hget] at h
    exact .inr h
  | some a =>
    rw [retire_of_some hget] at h
    exact (mem_add h).imp_left fun e => ⟨a, mem_of_get? hget, e⟩

/-- **What holds of all records of a store and of what is written, and of a record resolved if it
holds of the record, holds of all records after a call.** -/
theorem forall_mem_effect {P : Alert → Prop} {s : Store} {c : Call} {now : Instant}
    (hs : ∀ r ∈ s.records, P r) (hwritten : ∀ a, c = .upsert a → P a)
    (hresolve : ∀ r, P r → P (r.resolve now)) : ∀ r ∈ (s.effect now c).records, P r := by
  intro r hr
  cases c with
  | upsert a =>
    rcases mem_add hr with rfl | hr
    · exact hwritten r rfl
    · exact hs r hr
  | markStale id =>
    rcases mem_retire hr with ⟨a, ha, rfl⟩ | hr
    · unfold retired
      split
      · exact hs a ha
      · exact hresolve a (hs a ha)
    · exact hs r hr
  | _ => exact hs r hr

/-- All records are well formed. -/
def WellFormed (s : Store) : Prop := ∀ r ∈ s.records, r.WellFormed

end Store

/-! ## 2. What a pass writes and announces -/

namespace Plan

variable {batch records : List Alert} (hbatch : ∀ a ∈ batch, a.WellFormed)
include hbatch

theorem wellFormed_of_detection? {k : Key} {d : Alert} (h : detection? batch k = some d) :
    d.WellFormed := by
  have hkey : ∀ a ∈ withKey k (findings batch), a.WellFormed := fun a ha =>
    hbatch a (mem_findings.mp (List.mem_filter.mp ha).1).1
  unfold detection? at h
  cases hw : withKey k (findings batch) with
  | nil =>
    rw [hw] at h
    cases h
  | cons a rest =>
    rw [hw] at h hkey
    obtain ⟨ha, hrest⟩ := List.forall_mem_cons.mp hkey
    rw [← Option.some.inj h]
    exact ha.foldl_absorb hrest

theorem wellFormed_of_mem_new {a : Alert} (h : a ∈ (Plan.of batch records).new) :
    a.WellFormed := by
  rcases mem_new_iff.mp h with ⟨ha, _⟩ | ⟨k, hd, _⟩
  · exact hbatch a ha
  · exact wellFormed_of_detection? hbatch hd

theorem wellFormed_of_mem_updated (hrecords : ∀ r ∈ records, r.WellFormed) {a : Alert}
    (h : a ∈ (Plan.of batch records).updated) : a.WellFormed := by
  obtain ⟨k, d, r, hd, hr, hsucceed⟩ := mem_updated_iff.mp h
  rw [← Alert.settled_of_succeed hsucceed]
  exact (hrecords r (List.mem_of_find?_eq_some hr)).settled (wellFormed_of_detection? hbatch hd)

end Plan

namespace Pass

variable {x : Pass} {s : Store} (hbatch : ∀ a ∈ x.batch, a.WellFormed)
include hbatch

theorem wellFormed_of_mem_created {a : Alert} (h : a ∈ x.created s) : a.WellFormed := by
  rcases exists_of_mem_identify h with ⟨hnew, _⟩ | ⟨b, hnew, _, n, rfl⟩
  · exact Plan.wellFormed_of_mem_new hbatch hnew
  · exact (Plan.wellFormed_of_mem_new hbatch hnew).withId _

/-- **A pass writes and announces only what is well formed.** -/
theorem wellFormed_of_asks (hs : s.WellFormed) {c : Call} {a : Alert}
    (hc : Plan.Asks (x.plan s) (x.created s) c) (h : c = .upsert a ∨ c = .dispatch a) :
    a.WellFormed := by
  have hselect : ∀ r ∈ s.select (.inScope x.filters), r.WellFormed := fun r hr =>
    hs r (Store.mem_select.mp hr).1
  rcases hc with ⟨b, hb, rfl⟩ | ⟨b, hb, rfl | rfl | rfl⟩ | ⟨b, hb, rfl⟩ <;>
    rcases h with h | h <;> cases h
  · exact Plan.wellFormed_of_mem_updated hbatch hselect hb
  · exact wellFormed_of_mem_created hbatch hb
  · exact wellFormed_of_mem_created hbatch hb

end Pass

/-! ## 3. Series -/

section Attempt

variable {y : Attempt} {s : Store} (hbatch : ∀ a ∈ y.pass.batch, a.WellFormed) (hs : s.WellFormed)
include hbatch hs

/-- An exchange of a pass over well-formed alerts leaves a store of well-formed records as one. -/
theorem Attempt.wellFormed_after {e : Exchange} (he : e ∈ y.trace s)
    (h : e.before.WellFormed) : e.after.WellFormed := by
  obtain ⟨now, hattend⟩ := attends_of_mem_trace y.keeps he
  rcases hattend.store_eq with hsame | heffect
  · rwa [hsame]
  · rw [heffect]
    refine Store.forall_mem_effect h (fun a hwritten => ?_) fun r hr => hr.resolve now
    rcases Attempt.asks_of_mem_trace he with hsearch | hasks
    · rw [hsearch] at hwritten
      cases hwritten
    · exact Pass.wellFormed_of_asks hbatch hs hasks (.inl hwritten)

theorem Attempt.wellFormed_of_dispatch {e : Exchange} (he : e ∈ y.trace s) {a : Alert}
    (ha : e.call = .dispatch a) : a.WellFormed := by
  rcases Attempt.asks_of_mem_trace he with hsearch | hasks
  · rw [hsearch] at ha
    cases ha
  · exact Pass.wellFormed_of_asks hbatch hs hasks (.inr ha)

theorem Attempt.wellFormed_leaves : (y.leaves s).WellFormed :=
  ((y.leads_trace s).invariant hs fun _ he h => Attempt.wellFormed_after hbatch hs he h).2

end Attempt

/-- Each pass of a series finds well-formed records. -/
theorem wellFormed_found {s : Store} {ys : List Attempt} (hs : s.WellFormed)
    (hbatch : ∀ y ∈ ys, ∀ a ∈ y.pass.batch, a.WellFormed) {u : Turn} (hu : u ∈ turns s ys) :
    u.found.WellFormed := by
  induction ys generalizing s with
  | nil => cases hu
  | cons y ys ih =>
    rcases List.mem_cons.mp hu with rfl | hu
    · exact hs
    · exact ih (Attempt.wellFormed_leaves (hbatch y List.mem_cons_self) hs)
        (fun z hz => hbatch z (List.mem_cons_of_mem y hz)) hu

/-- **Well-formed records stay well formed through any series of passes over well-formed alerts**,
and so is whatever is announced. -/
theorem wellFormed_history (s : Store) (ys : List Attempt) (hs : s.WellFormed)
    (hbatch : ∀ y ∈ ys, ∀ a ∈ y.pass.batch, a.WellFormed) :
    (∀ m ∈ moments s (history s ys), m.WellFormed) ∧
      ∀ e ∈ history s ys, ∀ a, e.call = .dispatch a → a.WellFormed := by
  constructor
  · refine ((leads_history s ys).invariant hs fun e he h => ?_).1
    obtain ⟨u, hu, he⟩ := mem_history.mp he
    exact Attempt.wellFormed_after (hbatch u.attempt (attempt_mem_of_mem_turns hu))
      (wellFormed_found hs hbatch hu) he h
  · intro e he a ha
    obtain ⟨u, hu, he⟩ := mem_history.mp he
    exact Attempt.wellFormed_of_dispatch (hbatch u.attempt (attempt_mem_of_mem_turns hu))
      (wellFormed_found hs hbatch hu) he ha

/-- A pass that is rehearsed with faults and another that has little time, over alerts some of which
have ids of their own or are resolved. -/
def rehearsed : List Attempt :=
  [.rehearsal (Pass.hourly 'v' 4 [.connection 4, { Alert.shell 4 with id := "b" }]) Pass.faultyWrite
      none none false rfl (by simp [Pass.faultyWrite]),
    .rehearsal (Pass.hourly 'w' 5 [(Alert.shell 5).resolve (.hour 5), .shell 4]) ⟨[], id⟩
      (some (.ofMillis 1)) (some (.ofMillis 2)) false rfl (by simp)]

theorem wellFormed_rehearsed :
    (∀ m ∈ moments Pass.twoRecords (history Pass.twoRecords rehearsed), m.WellFormed) ∧
      ∀ e ∈ history Pass.twoRecords rehearsed, ∀ a, e.call = .dispatch a → a.WellFormed := by
  refine wellFormed_history Pass.twoRecords rehearsed ?_ ?_
  · unfold Store.WellFormed
    decide
  · simp only [rehearsed, List.forall_mem_cons]
    decide

end AlertLedger
