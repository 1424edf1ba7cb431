import AlertLedger.Proofs.Pass.Calls
import AlertLedger.Proofs.Plan.Members
import AlertLedger.Proofs.Query.Scope
import Mathlib.Data.List.Pairwise

/-!
# New alerts and their ids

A pass draws an id for each new alert that has none. `DrawsFresh` is what a generator of ids
promises: no id is empty, none comes twice, and no record has it. Alerts as they come from
detection have no ids (`Unnamed`), so that every new alert is created under a drawn id:

* `exists_of_mem_created`, `exists_mem_created`: what is created is what the plan calls new, under
  drawn ids;
* `eq_of_id_eq_of_mem_created`: no two alerts are created under one id;
* `eq_of_key_eq_of_mem_created`: nor for one finding, attempted enforcements apart.

`tally` is a generator that keeps the promise (`drawsFresh_of_tally`).
-/

namespace AlertLedger

/-! ## 1. New alerts of a plan -/

namespace Plan

variable {batch records : List Alert}

theorem id_of_detection? (hids : ∀ a ∈ batch, a.id = "") {k : Key} {d : Alert}
    (h : detection? batch k = some d) : d.id = "" := by
  obtain ⟨a, ha, _, hbare⟩ := exists_of_detection? h
  rw [Alert.id_eq_of_bare hbare]
  exact hids a (mem_findings.mp ha).1

theorem id_of_mem_new (hids : ∀ a ∈ batch, a.id = "") {a : Alert}
    (h : a ∈ (Plan.of batch records).new) : a.id = "" := by
  rcases mem_new_iff.mp h with ⟨ha, _⟩ | ⟨k, hd, _⟩
  · exact hids a ha
  · exact id_of_detection? hids hd

/-- The id of a new alert is one that an alert of the batch brings with it. -/
theorem exists_id_of_mem_new {a : Alert} (h : a ∈ (Plan.of batch records).new) :
    ∃ b ∈ batch, a.id = b.id := by
  rcases mem_new_iff.mp h with ⟨ha, _⟩ | ⟨k, hd, _⟩
  · exact ⟨a, ha, rfl⟩
  · obtain ⟨b, hb, _, hbare⟩ := exists_of_detection? hd
    exact ⟨b, (mem_findings.mp hb).1, Alert.id_eq_of_bare hbare⟩

/-- A new alert has another key than those after it, attempted enforcements apart. -/
theorem pairwise_key_new (batch records : List Alert) :
    (Plan.of batch records).new.Pairwise fun a b => a.status = .attempted ∨ a.key ≠ b.key := by
  show (attempted batch ++ (keys (findings batch)).filterMap (new? batch records)).Pairwise _
  rw [List.pairwise_append]
  refine ⟨?_, ?_, fun a ha _ _ => .inl (mem_attempted.mp ha).2⟩
  · exact List.pairwise_of_forall_mem_list fun a ha _ _ => .inl (mem_attempted.mp ha).2
  · have hkeys := nodup_of_pairwise_lt ((pairwise_keys (findings batch)).filter fun k =>
      (new? batch records k).isSome)
    rw [← keys_new, findings_new, List.nodup_iff_pairwise_ne, List.pairwise_map] at hkeys
    exact hkeys.imp .inr

end Plan

/-! ## 2. Drawing ids -/

namespace Pass

/-- The ids that a pass draws are fresh for a store. -/
structure DrawsFresh (x : Pass) (s : Store) : Prop where
  ne_empty : ∀ n, x.freshId n ≠ ""
  injective : Function.Injective x.freshId
  unused : ∀ n, s.get? (x.freshId n) = none

/-- One letter over and over: ids told apart by their length alone. -/
def tally (c : Char) (n : Nat) : String := String.ofList (List.replicate (n + 1) c)

/-- Two letters never make the same id. -/
theorem tally_ne {c d : Char} (h : c ≠ d) (m n : Nat) : tally c m ≠ tally d n := by
  intro e
  have hlist := congrArg String.toList e
  rw [tally, tally, String.toList_ofList, String.toList_ofList, List.replicate_succ,
    List.replicate_succ] at hlist
  exact h (List.cons.inj hlist).1

/-- An id without the letter of the tally is not drawn from it. -/
theorem ne_tally {c : Char} {id : String} (h : c ∉ id.toList) (n : Nat) : id ≠ tally c n := by
  rintro rfl
  rw [tally, String.toList_ofList] at h
  exact h List.mem_cons_self

/-- Where no id has the letter of the tally, the tally draws fresh ids. -/
theorem drawsFresh_of_tally {x : Pass} {s : Store} {c : Char} (hx : x.freshId = tally c)
    (hs : ∀ a ∈ s.records, c ∉ a.id.toList) : x.DrawsFresh s where
  ne_empty n h := by
    have hlist := congrArg String.toList h
    rw [hx, tally, String.toList_ofList] at hlist
    cases hlist
  injective m n h := by
    have hlength := congrArg (fun t : String => t.toList.length) h
    simp only [hx, tally, String.toList_ofList, List.length_replicate] at hlength
    omega
  unused n := by
    cases h : s.get? (x.freshId n) with
    | none => rfl
    | some a =>
      exact absurd ((Store.id_of_get? h).trans (congrFun hx n))
        (ne_tally (hs a (Store.mem_of_get? h)) n)

/-- No alert of the batch has an id. -/
def Unnamed (x : Pass) : Prop := ∀ a ∈ x.batch, a.id = ""

/-- Every finding of the batch lies in the scope of the pass. -/
def Covered (x : Pass) : Prop :=
  ∀ a ∈ x.batch, a.status = .attempted ∨ (Query.inScope x.filters).isMatch a = true

/-- All alerts of the batch lie in the scope of the pass. -/
def Scoped (x : Pass) : Prop := ∀ a ∈ x.batch, (Query.inScope x.filters).isMatch a = true

theorem Scoped.covered {x : Pass} (h : x.Scoped) : x.Covered := fun a ha => .inr (h a ha)

theorem Scoped.status_ne_attempted {x : Pass} (h : x.Scoped) {a : Alert} (ha : a ∈ x.batch) :
    a.status ≠ .attempted :=
  Query.not_attempted_of_isMatch_inScope (h a ha)

section Identify

variable {f : Nat → String} {as : List Alert}

theorem exists_of_mem_identify {n : Nat} {b : Alert} (h : b ∈ identify f n as) :
    b ∈ as ∧ b.id ≠ "" ∨ ∃ a ∈ as, a.id = "" ∧ ∃ m, b = { a with id := f m } := by
  induction as generalizing n with
  | nil => cases h
  | cons a as ih =>
    rw [identify] at h
    split at h <;> rename_i ha <;> rcases List.mem_cons.mp h with rfl | h
    · exact .inl ⟨List.mem_cons_self, by simpa [Alert.hasId] using ha⟩
    · exact (ih h).imp (.imp_left (List.mem_cons_of_mem a)) fun ⟨c, hc, e⟩ =>
        ⟨c, List.mem_cons_of_mem a hc, e⟩
    · exact .inr ⟨a, List.mem_cons_self, by simpa [Alert.hasId] using ha, n, rfl⟩
    · exact (ih h).imp (.imp_left (List.mem_cons_of_mem a)) fun ⟨c, hc, e⟩ =>
        ⟨c, List.mem_cons_of_mem a hc, e⟩

/-- Whatever does not look at ids sees the same in new alerts before and after they have theirs. -/
theorem map_identify {β : Type} {g : Alert → β} (hg : ∀ a id, g { a with id := id } = g a)
    (n : Nat) : (identify f n as).map g = as.map g := by
  induction as generalizing n with
  | nil => rfl
  | cons a as ih =>
    rw [identify]
    split
    · rw [List.map_cons, List.map_cons, ih]
    · rw [List.map_cons, List.map_cons, ih, hg]

theorem map_id_identify (has : ∀ a ∈ as, a.id = "") (n : Nat) :
    (identify f n as).map (·.id) = (List.range' n as.length).map f := by
  induction as generalizing n with
  | nil => rfl
  | cons a as ih =>
    have ha : ¬ a.hasId = true := by simp [Alert.hasId, has a List.mem_cons_self]
    rw [identify, if_neg ha, List.map_cons, ih fun b hb => has b (List.mem_cons_of_mem a hb)]
    rfl

end Identify

/-! ## 3. What a pass creates -/

variable {x : Pass} {s : Store}

theorem id_of_mem_created (hf : x.DrawsFresh s) {a : Alert} (h : a ∈ x.created s) : a.id ≠ "" := by
  rcases exists_of_mem_identify h with ⟨_, h⟩ | ⟨b, _, _, n, rfl⟩
  · exact h
  · exact hf.ne_empty n

theorem exists_of_mem_created (hx : x.Unnamed) {a : Alert} (h : a ∈ x.created s) :
    ∃ b ∈ (x.plan s).new, ∃ n, a = { b with id := x.freshId n } := by
  rcases exists_of_mem_identify h with ⟨hmem, hne⟩ | ⟨b, hb, _, n, e⟩
  · exact absurd (Plan.id_of_mem_new hx hmem) hne
  · exact ⟨b, hb, n, e⟩

/-- Under a drawn id the store has nothing before the alert is created. -/
theorem get?_of_mem_created (hx : x.Unnamed) (hf : x.DrawsFresh s) {a : Alert}
    (h : a ∈ x.created s) : s.get? a.id = none := by
  obtain ⟨b, _, n, rfl⟩ := exists_of_mem_created hx h
  exact hf.unused n

/-- Ids that a pass does not draw are as fresh after it as before. -/
theorem DrawsFresh.of_created {y : Pass} {s' : Store} (hy : y.DrawsFresh s) (hx : x.Unnamed)
    (hother : ∀ m n, y.freshId m ≠ x.freshId n)
    (hnew : ∀ a ∈ s'.records, s.get? a.id = none → a ∈ x.created s) : y.DrawsFresh s' where
  ne_empty := hy.ne_empty
  injective := hy.injective
  unused m := by
    cases hget : s'.get? (y.freshId m) with
    | none => rfl
    | some a =>
      have hid := Store.id_of_get? hget
      have hcreated := hnew a (Store.mem_of_get? hget) (hid ▸ hy.unused m)
      obtain ⟨b, _, n, rfl⟩ := exists_of_mem_created hx hcreated
      exact absurd hid.symm (hother m n)

/-- Every new alert of the plan is created, but for its id. -/
theorem exists_mem_created (x : Pass) (s : Store) {b : Alert} (h : b ∈ (x.plan s).new) :
    ∃ a ∈ x.created s, { a with id := "" } = { b with id := "" } := by
  have hmem : { b with id := "" } ∈ (x.plan s).new.map fun a => { a with id := "" } :=
    List.mem_map_of_mem h
  rw [← map_identify (f := x.freshId) (fun _ _ => rfl) 0] at hmem
  exact List.mem_map.mp hmem

theorem nodup_ids_created (hx : x.Unnamed) (hf : x.DrawsFresh s) :
    ((x.created s).map (·.id)).Nodup := by
  have hids : ∀ c ∈ (x.plan s).new, c.id = "" := fun c hc => Plan.id_of_mem_new hx hc
  rw [created, map_id_identify hids]
  exact (List.nodup_range' 1).map hf.injective

/-- **No two alerts are created under one id.** -/
theorem eq_of_id_eq_of_mem_created (hx : x.Unnamed) (hf : x.DrawsFresh s) {a b : Alert}
    (ha : a ∈ x.created s) (hb : b ∈ x.created s) (h : a.id = b.id) : a = b :=
  List.inj_on_of_nodup_map (nodup_ids_created hx hf) ha hb h

theorem pairwise_key_created (x : Pass) (s : Store) :
    (x.created s).Pairwise fun a b => a.status = .attempted ∨ a.key ≠ b.key := by
  have h := Plan.pairwise_key_new x.batch (s.select (.inScope x.filters))
  have hmap : ((x.created s).map fun a => (a.status, a.key)) =
      (x.plan s).new.map fun a => (a.status, a.key) := map_identify (fun _ _ => rfl) 0
  have hpairs : ((x.created s).map fun a => (a.status, a.key)).Pairwise fun a b =>
      a.1 = .attempted ∨ a.2 ≠ b.2 := by
    rw [hmap, List.pairwise_map]
    exact h
  rwa [List.pairwise_map] at hpairs

/-- **No two alerts are created for one finding**, attempted enforcements apart. -/
theorem eq_of_key_eq_of_mem_created {a b : Alert} (ha : a ∈ x.created s) (hb : b ∈ x.created s)
    (hsa : a.status ≠ .attempted) (hsb : b.status ≠ .attempted) (h : a.key = b.key) : a = b := by
  have hsymm : Std.Symm fun a b : Alert =>
      a.status ≠ .attempted → b.status ≠ .attempted → a.key ≠ b.key :=
    ⟨fun _ _ h hsb hsa e => h hsa hsb e.symm⟩
  have hpair : (x.created s).Pairwise fun a b =>
      a.status ≠ .attempted → b.status ≠ .attempted → a.key ≠ b.key :=
    (pairwise_key_created x s).imp fun h hsa _ => h.resolve_left hsa
  refine Classical.byContradiction fun hne => ?_
  exact hpair.forall ha hb hne hsa hsb h

end Pass

/-! ## 4. Alerts of one day -/

/-- The full hours of a day, on a clock of 24 hours. -/
def Instant.hour (n : Nat) : Instant :=
  ⟨⟨2024, 1, 1, by decide⟩, n % 24 * 3600, 0, by
    unfold IsTimeOfDay secondsPerDay nanosPerSecond
    omega⟩

/-- An alert of a policy, raised at a stage of a deployment at a full hour. -/
def Alert.raised (id policy : String) (stage : Stage) (n : Nat) : Alert :=
  { observed ⟨policy, "", .high⟩ ⟨.deployment, "web", "", none, none⟩ stage (.hour n) with
    id := id }

end AlertLedger
