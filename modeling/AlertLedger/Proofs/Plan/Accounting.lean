import AlertLedger.Proofs.Plan.Evidence
import Mathlib.Data.List.Induction

/-!
# The accounts of a plan

A plan accounts for every alert of the batch and for every record in scope, whatever keys and ids
they share (`accounts`): each detected key is handled once, as new, updated or unchanged, and each
record goes stale that does not stand for a detected key.

Records may be equal to one another, so the stale ones are counted by their places in the list:
`withEarlier` puts beside each record those before it, and `pick` chooses records by both. The
main steps:

* `handled_perm`: the three lists that are made key by key share out the detected keys;
* `superseded_eq_pick`: what comes after a record of its key is superseded;
* `vanished_perm_pick`: what comes first and is not detected is stale as well.
-/

namespace AlertLedger.Plan

/-! ## 1. Detected keys -/

/-- Three choices that share out a list pick all of it between them. -/
theorem filter_append_filter_perm {α : Type} {p q r : α → Bool} {l : List α}
    (h : ∀ x ∈ l, (p x = true ∧ q x = false ∧ r x = false) ∨
      (p x = false ∧ q x = true ∧ r x = false) ∨ (p x = false ∧ q x = false ∧ r x = true)) :
    (l.filter p ++ (l.filter q ++ l.filter r)).Perm l := by
  induction l with
  | nil => exact .nil
  | cons x l ih =>
    have hrest := (ih fun y hy => h y (List.mem_cons_of_mem x hy)).cons x
    rcases h x List.mem_cons_self with ⟨hp, hq, hr⟩ | ⟨hp, hq, hr⟩ | ⟨hp, hq, hr⟩
    · simp only [List.filter_cons, hp, hq, hr, if_true, Bool.false_eq_true, if_false]
      exact hrest
    · simp only [List.filter_cons, hp, hq, hr, if_true, Bool.false_eq_true, if_false]
      exact List.perm_middle.trans hrest
    · simp only [List.filter_cons, hp, hq, hr, if_true, Bool.false_eq_true, if_false]
      rw [← List.append_assoc] at hrest ⊢
      exact List.perm_middle.trans hrest

/-- The keys that a plan handles as new, as updated and as unchanged. -/
def handled (p : Plan) : List Key :=
  (findings p.new).map (·.key) ++ (p.updated.map (·.key) ++ p.unchanged)

/-- **The detected keys are shared out** among what is new, updated and unchanged. -/
theorem handled_perm (batch records : List Alert) :
    (handled (Plan.of batch records)).Perm (keys (findings batch)) := by
  rw [handled, keys_new, keys_updated]
  refine filter_append_filter_perm fun k hk => ?_
  obtain ⟨d, hd⟩ := detection?_of_detects (mem_keys_findings.mp hk)
  simp only [new?, updated?, isUnchanged, fate?, hd, Option.map_some]
  cases Fate.of d (standing? records k) <;> simp

/-! ## 2. Records by their places -/

/-- The records of a list, each with those before it. -/
def withEarlier (records : List Alert) : List (List Alert × Alert) :=
  records.zipIdx.map fun place => (records.take place.2, place.1)

/-- The records of a list that are chosen by what comes before them, in the order of the list. -/
def pick (choice : List Alert → Alert → Bool) (records : List Alert) : List Alert :=
  ((withEarlier records).filter fun place => choice place.1 place.2).map (·.2)

/-- Whether a record has the key of one before it. -/
def repeats (earlier : List Alert) (a : Alert) : Bool := earlier.any (·.key = a.key)

theorem repeats_iff {earlier : List Alert} {a : Alert} :
    repeats earlier a = true ↔ ∃ b ∈ earlier, b.key = a.key := by
  simp [repeats]

theorem repeats_eq_isSome (earlier : List Alert) (a : Alert) :
    repeats earlier a = (standing? earlier a.key).isSome := by
  rw [standing?, List.isSome_find?, repeats]

theorem withEarlier_concat (records : List Alert) (a : Alert) :
    withEarlier (records ++ [a]) = withEarlier records ++ [(records, a)] := by
  rw [withEarlier, List.zipIdx_append, List.map_append, withEarlier]
  congr 1
  · refine List.map_congr_left fun place hmem => ?_
    have hi : place.2 < records.length := by
      simpa using (List.mem_zipIdx hmem).2.1
    rw [List.take_append_of_le_length (Nat.le_of_lt hi)]
  · simp

section Pick

variable (choice : List Alert → Alert → Bool)

theorem pick_nil : pick choice [] = [] := rfl

theorem pick_concat (records : List Alert) (a : Alert) :
    pick choice (records ++ [a]) = pick choice records ++ if choice records a then [a] else [] := by
  rw [pick, withEarlier_concat, List.filter_append, List.map_append, pick]
  by_cases h : choice records a = true <;> simp [h]

/-- What is chosen by one of two choices is what the first takes, and what the second takes beside
it. -/
theorem pick_or_perm (choice' : List Alert → Alert → Bool) (records : List Alert) :
    (pick (fun earlier a => !choice earlier a && choice' earlier a) records ++
      pick choice records).Perm
        (pick (fun earlier a => choice earlier a || choice' earlier a) records) := by
  let first (place : List Alert × Alert) : Bool := choice place.1 place.2
  let either (place : List Alert × Alert) : Bool :=
    choice place.1 place.2 || choice' place.1 place.2
  have hsplit := List.filter_append_perm first ((withEarlier records).filter either)
  have hfirst : ((withEarlier records).filter either).filter first =
      (withEarlier records).filter first := by
    rw [List.filter_filter]
    refine List.filter_congr fun place _ => ?_
    simp only [first, either]
    cases choice place.1 place.2 <;> rfl
  have hrest : ((withEarlier records).filter either).filter (!first ·) =
      (withEarlier records).filter fun place =>
        !choice place.1 place.2 && choice' place.1 place.2 := by
    rw [List.filter_filter]
    refine List.filter_congr fun place _ => ?_
    simp only [first, either]
    cases choice place.1 place.2 <;> simp
  rw [hfirst, hrest] at hsplit
  rw [pick, pick, pick, ← List.map_append]
  exact (List.perm_append_comm.trans hsplit).map _

theorem mem_of_mem_pick {records : List Alert} {a : Alert} (h : a ∈ pick choice records) :
    a ∈ records := by
  induction records using List.reverseRecOn with
  | nil => cases h
  | append_singleton records b ih =>
    rw [pick_concat, List.mem_append] at h
    rcases h with h | h
    · exact List.mem_append_left _ (ih h)
    · split at h
      · exact List.mem_append_right _ h
      · cases h

end Pick

/-! ## 3. Stale records -/

theorem repeatedAfter_concat (seen : List Key) (records : List Alert) (a : Alert) :
    repeatedAfter seen (records ++ [a]) = repeatedAfter seen records ++
      if a.key ∈ seen ∨ repeats records a = true then [a] else [] := by
  induction records generalizing seen with
  | nil => simp [repeatedAfter, repeats]
  | cons b records ih =>
    rw [List.cons_append, repeatedAfter, repeatedAfter, ih, ih]
    by_cases hb : b.key ∈ seen
    · -- a key that was seen before is not news
      have hiff : (a.key ∈ seen ∨ repeats (b :: records) a = true) ↔
          (a.key ∈ seen ∨ repeats records a = true) := by
        simp only [repeats_iff, List.mem_cons, exists_eq_or_imp]
        grind
      simp only [if_pos hb, hiff, List.cons_append]
    · have hiff : (a.key ∈ seen ∨ repeats (b :: records) a = true) ↔
          (a.key ∈ b.key :: seen ∨ repeats records a = true) := by
        simp only [repeats_iff, List.mem_cons, exists_eq_or_imp]
        grind
      simp only [if_neg hb, hiff]

/-- **What comes after a record of its key is superseded**, in the order of the records. -/
theorem superseded_eq_pick (records : List Alert) : superseded records = pick repeats records := by
  induction records using List.reverseRecOn with
  | nil => rfl
  | append_singleton records a ih =>
    rw [pick_concat, ← ih, superseded, repeatedAfter_concat]
    simp [superseded]

/-- The records that are no longer detected, of each key the first. -/
def vanished (batch records : List Alert) : List Alert :=
  (keys records).filterMap (stale? batch records)

theorem stale_eq (batch records : List Alert) : (Plan.of batch records).stale =
    vanished batch records ++ pick repeats records := by
  rw [← superseded_eq_pick]
  rfl

theorem standing?_concat {records : List Alert} {a : Alert} {k : Key} :
    standing? (records ++ [a]) k =
      (standing? records k).or (if a.key = k then some a else none) := by
  rw [standing?, List.find?_append, standing?]
  congr 1
  by_cases h : a.key = k <;> simp [h]

/-- A record is chosen among the first of their keys exactly where it stands for its key. -/
theorem mem_pick_first_iff {choice : Alert → Bool} {records : List Alert} {a : Alert} :
    a ∈ pick (fun earlier b => !repeats earlier b && choice b) records ↔
      standing? records a.key = some a ∧ choice a = true := by
  induction records using List.reverseRecOn with
  | nil => simp [pick_nil, standing?]
  | append_singleton records b ih =>
    rw [pick_concat, List.mem_append, ih, standing?_concat, repeats_eq_isSome]
    by_cases e : a = b
    · subst e
      cases standing? records a.key <;> simp
    · cases standing? records a.key <;> simp [e, Ne.symm e]

theorem nodup_pick_first (choice : Alert → Bool) (records : List Alert) :
    (pick (fun earlier b => !repeats earlier b && choice b) records).Nodup := by
  induction records using List.reverseRecOn with
  | nil => exact .nil
  | append_singleton records a ih =>
    rw [pick_concat]
    split
    · rename_i h
      refine List.nodup_append.mpr ⟨ih, List.nodup_singleton a, fun b hb c hc e => ?_⟩
      rw [List.mem_singleton] at hc
      have hmem : a ∈ records := hc ▸ e ▸ mem_of_mem_pick _ hb
      have hrepeats : repeats records a = true := repeats_iff.mpr ⟨a, hmem, rfl⟩
      simp [hrepeats] at h
    · rwa [List.append_nil]

theorem mem_vanished_iff {batch records : List Alert} {a : Alert} :
    a ∈ vanished batch records ↔ standing? records a.key = some a ∧ ¬ Detects batch a.key := by
  simp only [vanished, List.mem_filterMap, stale?_eq_some_iff, detection?_eq_none_iff]
  constructor
  · intro h
    obtain ⟨k, _, hd, hs⟩ := h
    obtain rfl := key_of_standing? hs
    exact ⟨hs, hd⟩
  · intro h
    obtain ⟨hs, hd⟩ := h
    exact ⟨a.key, mem_keys.mpr ⟨a, List.mem_of_find?_eq_some hs, rfl⟩, hd, hs⟩

theorem pairwise_key_vanished (batch records : List Alert) :
    ((vanished batch records).map (·.key)).Pairwise (· < ·) := by
  rw [vanished, map_key_filterMap key_of_stale?]
  exact (pairwise_keys records).filter _

/-- **What comes first of its key and is not detected is stale.** -/
theorem vanished_perm_pick (batch records : List Alert) : (vanished batch records).Perm
    (pick (fun earlier a => !repeats earlier a && !decide (Detects batch a.key)) records) := by
  have hnodup : (vanished batch records).Nodup :=
    (nodup_of_pairwise_lt (pairwise_key_vanished batch records)).of_map
  refine (List.perm_ext_iff_of_nodup hnodup (nodup_pick_first _ records)).mpr fun a => ?_
  rw [mem_vanished_iff, mem_pick_first_iff, Bool.not_eq_true', decide_eq_false_iff_not]

/-! ## 4. The accounts -/

/-- What a plan owes the batch and the records that it was made for. -/
structure Accounts (batch records : List Alert) (p : Plan) : Prop where
  /-- Attempted enforcements come first, as they are and in the order of the batch. -/
  attempted : p.new = attempted batch ++ findings p.new
  /-- Every detected key is handled, and once. -/
  once : ∀ k, Detects batch k → (handled p).count k = 1
  /-- No other key is. -/
  detected : ∀ k ∈ handled p, Detects batch k
  /-- A key is new exactly where no record has it. -/
  new : ∀ k, k ∈ (findings p.new).map (·.key) ↔ Detects batch k ∧ ∀ r ∈ records, r.key ≠ k
  /-- An updated record keeps the identity of the first record of its key. -/
  updated : ∀ a ∈ p.updated, ∃ r, standing? records a.key = some r ∧ a.key = r.key ∧
    a.id = r.id ∧ a.status = r.status ∧ a.time = r.time ∧ a.resolvedAt = r.resolvedAt
  /-- The records at all places are stale that come after another of their key, or that are not
  detected. -/
  stale : p.stale.Perm
    (pick (fun earlier a => repeats earlier a || !decide (Detects batch a.key)) records)
  /-- Those that come first of their key are in front by keys, the others follow as they come. -/
  order : ∃ gone, p.stale = gone ++ pick repeats records ∧
    (gone.map (·.key)).Pairwise (· < ·) ∧
    gone.Perm (pick (fun earlier a => !repeats earlier a && !decide (Detects batch a.key)) records)
  /-- What is made key by key is strictly ascending. -/
  ascending : ((findings p.new).map (·.key)).Pairwise (· < ·) ∧
    (p.updated.map (·.key)).Pairwise (· < ·) ∧ p.unchanged.Pairwise (· < ·)

/-- **A plan accounts for every alert and every record.** -/
theorem accounts (batch records : List Alert) : Accounts batch records (Plan.of batch records) where
  attempted := by
    rw [findings_new]
    rfl
  once k hk := by
    rw [(handled_perm batch records).count_eq]
    have hnodup := nodup_of_pairwise_lt (pairwise_keys (findings batch))
    exact List.count_eq_one_of_mem hnodup (mem_keys_findings.mpr hk)
  detected k hk := mem_keys_findings.mp ((handled_perm batch records).mem_iff.mp hk)
  new k := by
    simp only [keys_new, List.mem_filter, mem_keys_findings, Option.isSome_iff_exists,
      new?_eq_some_iff]
    constructor
    · intro h
      obtain ⟨hk, _, _, hr⟩ := h
      exact ⟨hk, by simpa [standing?] using hr⟩
    · intro h
      obtain ⟨hk, hr⟩ := h
      obtain ⟨d, hd⟩ := detection?_of_detects hk
      exact ⟨hk, d, hd, by simpa [standing?] using hr⟩
  updated a ha := by
    obtain ⟨k, d, r, hd, hr, hs⟩ := mem_updated_iff.mp ha
    have hkey : a.key = k := (Alert.key_of_succeed hs).trans (key_of_detection? hd)
    have hidentity := Alert.underIdentityOf_settled r d
    rw [Alert.settled_of_succeed hs] at hidentity
    rw [hkey]
    refine ⟨r, hr, (key_of_standing? hr).symm, ?_⟩
    rw [← hidentity]
    exact ⟨rfl, rfl, rfl, rfl⟩
  stale := by
    rw [stale_eq]
    exact ((vanished_perm_pick batch records).append_right _).trans (pick_or_perm repeats _ records)
  order := ⟨vanished batch records, stale_eq batch records, pairwise_key_vanished batch records,
    vanished_perm_pick batch records⟩
  ascending := by
    rw [keys_new, keys_updated]
    exact ⟨(pairwise_keys _).filter _, (pairwise_keys _).filter _, (pairwise_keys _).filter _⟩

end AlertLedger.Plan
