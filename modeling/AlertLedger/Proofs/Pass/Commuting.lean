import AlertLedger.Proofs.Pass.Locality
import AlertLedger.Proofs.Pass.PostState

/-!
# Passes with scopes apart

Two passes whose filters fix different policies, or different entities, have no finding in common
(`Query.Apart`). If they bring in no active alert out of their scope, neither of them changes what
the other one finds in the store (`select_fulfilled_of_apart`), so that both plan and do the same
whether they come first or second, and leave the same store in either order (`fulfilled_comm`).

The main statement joins this with what a pass does to one finding (`keeps_findings_apart`).
-/

namespace AlertLedger

/-! ## 1. Scopes apart -/

namespace Query

/-- Queries that never match records of one finding. -/
def Apart (q q' : Query) : Prop :=
  ∀ a b : Alert, a.key = b.key → q.isMatch a = true → q'.isMatch b = false

variable {q q' : Query}

theorem Apart.symm (h : q.Apart q') : q'.Apart q := by
  intro a b hkey ha
  cases hb : q.isMatch b with
  | false => rfl
  | true =>
    rw [h b a hkey.symm hb] at ha
    cases ha

theorem policy_of_isMatch {id : String} {a : Alert} (hq : q.policy = some id)
    (h : q.isMatch a = true) : a.key.policy = id := by
  simp only [isMatch, Bool.and_eq_true, hq, admits, decide_eq_true_eq] at h
  exact h.1.1.1.2.symm

theorem entity_of_isMatch {id : String} {a : Alert} (hq : q.entity = some id)
    (h : q.isMatch a = true) : a.key.entity = id := by
  simp only [isMatch, Bool.and_eq_true, hq, admits, decide_eq_true_eq] at h
  exact h.1.1.2.symm

/-- Queries that ask for something of a record that its key tells are apart if it is not the
same. -/
theorem apart_of_ne {field : Key → String} {id id' : String} (hne : id ≠ id')
    (h : ∀ a : Alert, q.isMatch a = true → field a.key = id)
    (h' : ∀ a : Alert, q'.isMatch a = true → field a.key = id') : q.Apart q' := by
  intro a b hkey ha
  cases hb : q'.isMatch b with
  | false => rfl
  | true => exact absurd ((h a ha).symm.trans (hkey ▸ h' b hb)) hne

end Query

namespace Pass

variable {x y : Pass} {s : Store} {clock clock' : Call → Instant}

/-- The filters of two passes fix different policies, or different entities. -/
def FixApart (x y : Pass) : Prop :=
  (∃ p q, (Query.inScope x.filters).policy = some p ∧ (Query.inScope y.filters).policy = some q ∧
    p ≠ q) ∨
  ∃ e f, (Query.inScope x.filters).entity = some e ∧ (Query.inScope y.filters).entity = some f ∧
    e ≠ f

theorem FixApart.apart (h : x.FixApart y) :
    (Query.inScope x.filters).Apart (.inScope y.filters) := by
  rcases h with ⟨p, q, hp, hq, hne⟩ | ⟨e, f, he, hf, hne⟩
  · exact Query.apart_of_ne hne (fun _ => Query.policy_of_isMatch hp)
      fun _ => Query.policy_of_isMatch hq
  · exact Query.apart_of_ne hne (fun _ => Query.entity_of_isMatch he)
      fun _ => Query.entity_of_isMatch hf

/-- The active alerts of the batch lie in the scope of the pass. -/
def Contained (x : Pass) : Prop :=
  ∀ a ∈ x.batch, a.status = .active → (Query.inScope x.filters).isMatch a = true

/-! ## 2. What a pass leaves alone -/

/-- Queries see in a created alert what they see in one of the batch. -/
theorem exists_isMatch_eq_of_mem_created (hx : x.Unnamed) {a : Alert} (ha : a ∈ x.created s) :
    ∃ b ∈ x.batch, ∀ q : Query, q.isMatch a = q.isMatch b := by
  obtain ⟨c, hc, n, rfl⟩ := exists_of_mem_created hx ha
  rcases mem_new_plan_iff.mp hc with ⟨hmem, _⟩ | ⟨hd, _⟩
  · exact ⟨c, hmem, fun _ => rfl⟩
  · obtain ⟨b, hb, _, hbare⟩ := Plan.exists_of_detection? hd
    exact ⟨b, (Plan.mem_findings.mp hb).1, fun q => Alert.isMatch_eq_of_bare hbare q⟩

section Apart

variable (hx : x.Unnamed) (hcx : x.Contained)
  (hapart : (Query.inScope x.filters).Apart (.inScope y.filters))

include hx hcx hapart in
theorem not_isMatch_of_mem_created {a : Alert} (ha : a ∈ x.created s) :
    (Query.inScope y.filters).isMatch a = false := by
  obtain ⟨b, hb, hsame⟩ := exists_isMatch_eq_of_mem_created hx ha
  rw [hsame]
  cases hq : (Query.inScope y.filters).isMatch b with
  | false => rfl
  | true =>
    have hin := hcx b hb (Query.status_of_isMatch_inScope hq)
    rw [← hq]
    exact hapart b b rfl hin

include hapart in
/-- What a pass does to a record another scope does not see. -/
theorem isMatch_afterwards_of_apart (s : Store) (clock : Call → Instant) (r : Alert) :
    (x.afterwards s clock r = r) ∨
      ((Query.inScope y.filters).isMatch r = false ∧
        (Query.inScope y.filters).isMatch (x.afterwards s clock r) = false) := by
  cases hq : (Query.inScope x.filters).isMatch r with
  | false => exact .inl (afterwards_of_not_isMatch hq)
  | true => exact .inr ⟨hapart r r rfl hq, hapart r _ (key_afterwards x s clock r).symm hq⟩

variable (hf : x.DrawsFresh s)
include hx hcx hapart hf

/-- **After a pass a search in another scope finds what it found before.** -/
theorem select_fulfilled_of_apart (clock : Call → Instant) :
    (x.fulfilled s clock).select (.inScope y.filters) = s.select (.inScope y.filters) := by
  refine Store.select_congr fun a hq => ?_
  rw [mem_fulfilled_iff hx hf]
  constructor
  · rintro (⟨r, hr, rfl⟩ | ha)
    · rcases isMatch_afterwards_of_apart hapart s clock r with e | ⟨_, hnot⟩
      · rwa [e]
      · rw [hnot] at hq
        cases hq
    · rw [not_isMatch_of_mem_created hx hcx hapart ha] at hq
      cases hq
  · intro ha
    rcases isMatch_afterwards_of_apart hapart s clock a with e | ⟨hnot, _⟩
    · exact .inl ⟨a, ha, e⟩
    · rw [hnot] at hq
      cases hq

/-- So a pass in that scope creates the same alerts. -/
theorem created_fulfilled_of_apart (clock : Call → Instant) :
    y.created (x.fulfilled s clock) = y.created s := by
  rw [created, created, plan, plan, select_fulfilled_of_apart hx hcx hapart hf]

/-- It does the same to each record. -/
theorem afterwards_fulfilled_of_apart (clock clock' : Call → Instant) (r : Alert) :
    y.afterwards (x.fulfilled s clock) clock' r = y.afterwards s clock' r := by
  rw [afterwards, afterwards, select_fulfilled_of_apart hx hcx hapart hf]

end Apart

/-! ## 3. Either order -/

/-- A pass draws ids as fresh after another one as before it, if they do not draw the same. -/
theorem DrawsFresh.fulfilled (hfy : y.DrawsFresh s) (hx : x.Unnamed) (hf : x.DrawsFresh s)
    (hids : ∀ m n, y.freshId m ≠ x.freshId n) (clock : Call → Instant) :
    y.DrawsFresh (x.fulfilled s clock) := by
  refine hfy.of_created hx hids fun a ha hnone => ?_
  rcases (mem_fulfilled_iff hx hf).mp ha with ⟨r, hr, rfl⟩ | hcreated
  · rw [id_afterwards, Store.get?_of_mem hr] at hnone
    cases hnone
  · exact hcreated

/-- What two passes with scopes apart do to a record does not depend on their order. -/
theorem afterwards_comm (hapart : (Query.inScope x.filters).Apart (.inScope y.filters))
    (s : Store) (clock clock' : Call → Instant) (r : Alert) :
    y.afterwards s clock' (x.afterwards s clock r) =
      x.afterwards s clock (y.afterwards s clock' r) := by
  rcases isMatch_afterwards_of_apart hapart s clock r with hx | ⟨hnot, hnot'⟩
  · rcases isMatch_afterwards_of_apart hapart.symm s clock' r with hy | ⟨hnot, hnot'⟩
    · rw [hx, hy, hx]
    · rw [hx, afterwards_of_not_isMatch hnot']
  · rw [afterwards_of_not_isMatch hnot, afterwards_of_not_isMatch hnot']

section Order

variable (hx : x.Unnamed) (hy : y.Unnamed) (hcx : x.Contained) (hcy : y.Contained)
  (hapart : (Query.inScope x.filters).Apart (.inScope y.filters)) (hfx : x.DrawsFresh s)
  (hfy : y.DrawsFresh s) (hids : ∀ m n, x.freshId m ≠ y.freshId n)

include hx hy hcx hapart hfx hfy hids in
/-- After two passes with scopes apart there are the records from before as both leave them, and
what each of them creates. -/
theorem mem_fulfilled_fulfilled_iff {a : Alert} :
    a ∈ (y.fulfilled (x.fulfilled s clock) clock').records ↔
      (∃ r ∈ s.records, y.afterwards s clock' (x.afterwards s clock r) = a) ∨
        a ∈ x.created s ∨ a ∈ y.created s := by
  rw [mem_fulfilled_iff hy (hfy.fulfilled hx hfx (fun m n e => hids n m e.symm) clock),
    created_fulfilled_of_apart hx hcx hapart hfx, ← or_assoc]
  refine or_congr_left ?_
  simp only [afterwards_fulfilled_of_apart hx hcx hapart hfx, mem_fulfilled_iff hx hfx]
  constructor
  · rintro ⟨b, ⟨r, hr, rfl⟩ | hb, rfl⟩
    · exact .inl ⟨r, hr, rfl⟩
    · rw [afterwards_of_not_isMatch (not_isMatch_of_mem_created hx hcx hapart hb)]
      exact .inr hb
  · rintro (⟨r, hr, rfl⟩ | ha)
    · exact ⟨_, .inl ⟨r, hr, rfl⟩, rfl⟩
    · exact ⟨a, .inr ha,
        afterwards_of_not_isMatch (not_isMatch_of_mem_created hx hcx hapart ha)⟩

include hx hy hcx hcy hapart hfx hfy hids

/-- **Passes with scopes apart leave the same store in either order.** -/
theorem fulfilled_comm (clock clock' : Call → Instant) :
    y.fulfilled (x.fulfilled s clock) clock' = x.fulfilled (y.fulfilled s clock') clock := by
  refine Store.eq_of_mem_iff ?_ fun a => ?_
  · simp only [denied_fulfilled]
  rw [mem_fulfilled_fulfilled_iff hx hy hcx hapart hfx hfy hids,
    mem_fulfilled_fulfilled_iff hy hx hcy hapart.symm hfy hfx fun m n e => hids n m e.symm]
  simp only [afterwards_comm hapart, or_comm (a := a ∈ x.created s)]

end Order

theorem final_run_prompt (clock : Call → Instant) (notify : Alert → Except NotifyError Unit)
    (hs : s.denied = false) (hx : x.Unnamed) (hf : x.DrawsFresh s) :
    (x.run (.prompt clock notify) s).final = x.fulfilled s clock := by
  obtain ⟨_, _, hrun, _⟩ := run_prompt clock notify hs hx hf
  rw [hrun]

/-- **A pass keeps findings apart.** It does to each of them what it would do if there were nothing
else, and it does the same whether a pass with another scope comes before it or after it. -/
theorem keeps_findings_apart (x : Pass) (s : Store) (clock : Call → Instant)
    (notify : Alert → Except NotifyError Unit) (hs : s.denied = false) (hx : x.Unnamed)
    (hf : x.DrawsFresh s) :
    (∀ k, x.Local s k (x.run (.prompt clock notify) s)
      ((x.alone s k).run (.prompt clock notify) (s.only k))) ∧
    ∀ (y : Pass) (clock' : Call → Instant) (notify' : Alert → Except NotifyError Unit),
      x.FixApart y → x.Contained → y.Contained → y.Unnamed → y.DrawsFresh s →
      (∀ m n, x.freshId m ≠ y.freshId n) →
        (y.run (.prompt clock' notify') (x.run (.prompt clock notify) s).final).final =
          (x.run (.prompt clock notify) (y.run (.prompt clock' notify') s).final).final := by
  refine ⟨fun k => local_run_prompt clock notify hs hx hf k, ?_⟩
  intro y clock' notify' hapart hcx hcy hy hfy hids
  have hfy' : y.DrawsFresh (x.fulfilled s clock) :=
    hfy.fulfilled hx hf (fun m n e => hids n m e.symm) clock
  have hfx' : x.DrawsFresh (y.fulfilled s clock') := hf.fulfilled hy hfy hids clock'
  rw [final_run_prompt clock notify hs hx hf, final_run_prompt clock' notify' hs hy hfy,
    final_run_prompt clock' notify' ((denied_fulfilled x s clock).trans hs) hy hfy',
    final_run_prompt clock notify ((denied_fulfilled y s clock').trans hs) hx hfx']
  exact fulfilled_comm hx hy hcx hcy hapart.apart hf hfy hids clock clock'

/-- A record that was resolved and one that is active. -/
def halfResolved : Store where
  records := [(Alert.raised "a" "shell" .runtime 1).resolve (.hour 2), .raised "b" "root" .deploy 2]
  denied := false
  ascending := by decide
  named := by decide

/-- A pass for one policy that detects a finding again, and reports an enforcement of the other. -/
def forShell : Pass :=
  ⟨.ofParts 7200 0, .hour 3, tally 'x', [.raised "" "shell" .runtime 3,
    { Alert.raised "" "root" .runtime 3 with status := .attempted }], [.policy "shell"]⟩

/-- A pass for the other policy that detects nothing. -/
def forRoot : Pass := ⟨.zero, .hour 4, tally 'y', [], [.policy "root"]⟩

/-- The finding detected again is recorded and held back, the enforcement is announced, and the
other policy has its record resolved, before or after. -/
theorem keeps_findings_apart_halfResolved :
    let shell := fun s => forShell.run (.prompt (fun _ => .hour 3) fun _ => .ok ()) s
    let root := fun s => forRoot.run (.prompt (fun _ => .hour 4) fun _ => .ok ()) s
    (∀ k, forShell.Local halfResolved k (shell halfResolved)
      ((forShell.alone halfResolved k).run (.prompt (fun _ => .hour 3) fun _ => .ok ())
        (halfResolved.only k))) ∧
    (root (shell halfResolved).final).final = (shell (root halfResolved).final).final ∧
    (forShell.heldBack halfResolved (shell halfResolved).calls).map (·.id) = ["xx"] ∧
    (announced (shell halfResolved).calls).map (·.id) = ["x"] ∧
    (root (shell halfResolved).final).final.records.map (fun a => (a.id, a.status)) =
      [("a", .resolved), ("b", .resolved), ("x", .attempted), ("xx", .active)] := by
  intro shell root
  obtain ⟨hlocal, hcomm⟩ := keeps_findings_apart forShell halfResolved (fun _ => .hour 3)
    (fun _ => .ok ()) rfl (by unfold Unnamed; decide) (drawsFresh_of_tally rfl (by decide))
  exact ⟨hlocal, hcomm forRoot (fun _ => .hour 4) (fun _ => .ok ())
    (.inl ⟨"shell", "root", rfl, rfl, by decide⟩) (by unfold Contained; decide)
    (by unfold Contained; decide) (by unfold Unnamed; decide)
    (drawsFresh_of_tally rfl (by decide)) (tally_ne (by decide)), by decide +kernel,
    by decide +kernel, by decide +kernel⟩

end Pass

end AlertLedger
