import AlertLedger.Proofs.Call.Unseen
import AlertLedger.Proofs.Pass.Locality
import AlertLedger.Proofs.Pass.RateLimit

/-!
# Attempted enforcements stand apart

An alert that reports an attempted enforcement shares its key with findings, is created before them
and goes through the same look-ups and writes. None of it shows in what a pass does to anything
else. The main statements:

* `setsApart_run_prompt`: a pass over a batch and the pass over its findings alone do the same, but
  that the first leaves one record more for each attempted enforcement (`attempts`);
* `goAlike`: passes that come later go the same way whether these records are there or not;
* `attempted_stand_apart`: both together.
-/

namespace AlertLedger

namespace Plan

/-! ## 1. Plans without attempted enforcements -/

@[simp] theorem findings_findings (batch : List Alert) :
    findings (findings batch) = findings batch := by
  simp [findings]

@[simp] theorem attempted_findings (batch : List Alert) : attempted (findings batch) = [] := by
  simp [attempted, findings]

theorem detection?_findings (batch : List Alert) (k : Key) :
    detection? (findings batch) k = detection? batch k := by
  rw [detection?, detection?, findings_findings]

/-- **What else is planned depends on the findings alone.** -/
theorem of_eq_of_findings (batch records : List Alert) :
    Plan.of batch records =
      { Plan.of (findings batch) records with
        new := attempted batch ++ (Plan.of (findings batch) records).new } := by
  have hnew : new? (findings batch) records = new? batch records := by
    funext k
    rw [new?, new?, fate?, fate?, detection?_findings]
  have hupdated : updated? (findings batch) records = updated? batch records := by
    funext k
    rw [updated?, updated?, fate?, fate?, detection?_findings]
  have hstale : stale? (findings batch) records = stale? batch records := by
    funext k
    rw [stale?, stale?, detection?_findings]
  have hunchanged : isUnchanged (findings batch) records = isUnchanged batch records := by
    funext k
    rw [isUnchanged, isUnchanged, fate?, fate?, detection?_findings]
  simp only [Plan.of, findings_findings, attempted_findings, hnew, hupdated, hstale, hunchanged,
    List.nil_append]

end Plan

namespace Pass

/-! ## 2. The pass over the findings alone -/

variable {x : Pass} {s : Store} {clock : Call → Instant} {a : Alert}

/-- The pass over the findings of the batch, with the ids that they have in the whole pass. -/
def ofFindings (x : Pass) : Pass :=
  { x with
    batch := Plan.findings x.batch
    freshId := fun n => x.freshId (n + (Plan.attempted x.batch).length) }

/-- The records of the attempted enforcements of a batch: each is the alert under the id drawn for
it. -/
def attempts (x : Pass) : List Alert :=
  (Plan.attempted x.batch).mapIdx fun n a => { a with id := x.freshId n }

theorem identify_add (f : Nat → String) (n : Nat) (as : List Alert) :
    identify f n as = identify (fun m => f (m + n)) 0 as := by
  induction n generalizing f with
  | zero => rfl
  | succ n ih =>
    rw [identify_succ, ih]
    rfl

/-- New alerts without ids draw them by their places. -/
theorem identify_eq_mapIdx {f : Nat → String} {as : List Alert} (has : ∀ a ∈ as, a.id = "") :
    identify f 0 as = as.mapIdx fun n a => { a with id := f n } := by
  induction as generalizing f with
  | nil => rfl
  | cons a as ih =>
    have ha : ¬ a.hasId = true := by simp [Alert.hasId, has a List.mem_cons_self]
    rw [identify, if_neg ha, identify_succ, ih fun b hb => has b (List.mem_cons_of_mem a hb),
      List.mapIdx_cons]

theorem identify_append {f : Nat → String} {as bs : List Alert} (has : ∀ a ∈ as, a.id = "")
    (n : Nat) : identify f n (as ++ bs) = identify f n as ++ identify f (n + as.length) bs := by
  induction as generalizing n with
  | nil => rfl
  | cons a as ih =>
    have ha : ¬ a.hasId = true := by simp [Alert.hasId, has a List.mem_cons_self]
    rw [List.cons_append, identify, identify, if_neg ha, if_neg ha,
      ih fun b hb => has b (List.mem_cons_of_mem a hb), List.length_cons, List.cons_append]
    congr 3
    omega

theorem plan_ofFindings (x : Pass) (s : Store) :
    x.plan s = { x.ofFindings.plan s with
      new := Plan.attempted x.batch ++ (x.ofFindings.plan s).new } :=
  Plan.of_eq_of_findings x.batch (s.select (.inScope x.filters))

/-- **The attempted enforcements are created first**, and the findings as without them. -/
theorem created_eq_append (hx : x.Unnamed) (s : Store) :
    x.created s = x.attempts ++ x.ofFindings.created s := by
  have hids : ∀ a ∈ Plan.attempted x.batch, a.id = "" := fun a ha =>
    hx a (Plan.mem_attempted.mp ha).1
  rw [created, plan_ofFindings, identify_append hids, identify_eq_mapIdx hids, Nat.zero_add,
    identify_add]
  rfl

theorem status_of_mem_attempts (ha : a ∈ x.attempts) : a.status = .attempted := by
  obtain ⟨n, hn, rfl⟩ := List.mem_mapIdx.mp ha
  exact (Plan.mem_attempted.mp (List.getElem_mem hn)).2

theorem status_of_mem_created_ofFindings (hx : x.Unnamed) (ha : a ∈ x.ofFindings.created s) :
    a.status ≠ .attempted := by
  have hx' : x.ofFindings.Unnamed := fun b hb => hx b (Plan.mem_findings.mp hb).1
  obtain ⟨b, hb, n, rfl⟩ := exists_of_mem_created hx' ha
  show b.status ≠ .attempted
  rcases mem_new_plan_iff.mp hb with ⟨hmem, _⟩ | ⟨hd, _⟩
  · exact (Plan.mem_findings.mp hmem).2
  · exact Plan.status_of_detection? hd

theorem unnamed_ofFindings (hx : x.Unnamed) : x.ofFindings.Unnamed := fun a ha =>
  hx a (Plan.mem_findings.mp ha).1

theorem drawsFresh_ofFindings (hf : x.DrawsFresh s) : x.ofFindings.DrawsFresh s where
  ne_empty _ := hf.ne_empty _
  injective _ _ h := Nat.add_right_cancel (hf.injective h)
  unused _ := hf.unused _

theorem afterwards_ofFindings (x : Pass) (s : Store) (clock : Call → Instant) (r : Alert) :
    x.ofFindings.afterwards s clock r = x.afterwards s clock r := by
  have hdetection : Plan.detection? x.ofFindings.batch r.key = Plan.detection? x.batch r.key :=
    Plan.detection?_findings x.batch r.key
  rw [afterwards, afterwards, hdetection]
  rfl

/-- **The store is the same but for the attempted enforcements.** -/
theorem fulfilled_ofFindings (clock : Call → Instant) (hx : x.Unnamed) (hf : x.DrawsFresh s) :
    x.ofFindings.fulfilled s clock = (x.fulfilled s clock).without x.attempts := by
  refine Store.eq_of_mem_iff ?_ fun a => ?_
  · rw [Store.denied_without, denied_fulfilled, denied_fulfilled]
  rw [Store.mem_without, mem_fulfilled_iff (unnamed_ofFindings hx) (drawsFresh_ofFindings hf),
    mem_fulfilled_iff hx hf, created_eq_append hx, List.mem_append]
  simp only [afterwards_ofFindings]
  constructor
  · rintro (⟨r, hr, rfl⟩ | ha)
    · refine ⟨.inl ⟨r, hr, rfl⟩, fun hmem => ?_⟩
      -- what is created has an id that no record had before
      have hnone := get?_of_mem_created hx hf (a := x.afterwards s clock r)
        (by rw [created_eq_append hx]; exact List.mem_append_left _ hmem)
      rw [id_afterwards, Store.get?_of_mem hr] at hnone
      cases hnone
    · exact ⟨.inr (.inr ha), fun hmem =>
        status_of_mem_created_ofFindings hx ha (status_of_mem_attempts hmem)⟩
  · rintro ⟨hr | hmem | ha, hnot⟩
    · exact .inl hr
    · exact absurd hmem hnot
    · exact .inr ha

theorem notices_ofFindings (hx : x.Unnamed) (s : Store) :
    x.ofFindings.notices s = (x.notices s).filter (·.status ≠ .attempted) := by
  rw [notices, notices, created_eq_append hx, List.filter_append, Plan.filter_not_attempted]
  · rfl
  · exact fun a ha => status_of_mem_attempts (List.mem_filter.mp ha).1
  · exact fun a ha => status_of_mem_created_ofFindings hx (List.mem_filter.mp ha).1

theorem heldBack_ofFindings (hx : x.Unnamed) (s : Store) {calls calls' : List Call}
    (h : announced calls' = (announced calls).filter (·.status ≠ .attempted)) :
    x.ofFindings.heldBack s calls' = (x.heldBack s calls).filter (·.status ≠ .attempted) := by
  rw [heldBack, heldBack, created_eq_append hx, List.filter_append, Plan.filter_not_attempted, h]
  · refine List.filter_congr fun a ha => ?_
    have hstatus := status_of_mem_created_ofFindings hx ha
    simp [hstatus]
  · exact fun a ha => status_of_mem_attempts (List.mem_filter.mp ha).1
  · exact fun a ha => status_of_mem_created_ofFindings hx (List.mem_filter.mp ha).1

/-- What a pass makes of the attempted enforcements of its batch, as it shows beside the pass over
the findings alone: `r` is the run of the one and `r'` that of the other. -/
structure SetsApart (x : Pass) (s : Store) (r r' : Run Store (Except PassError Report)) :
    Prop where
  /-- Each attempted enforcement has a record of its own, -/
  distinct : (x.attempts.map (·.id)).Nodup
  /-- which the pass leaves in the store, -/
  stored : ∀ a ∈ x.attempts, a ∈ r.final.records
  /-- and everything else in the store is as it is without them. -/
  records : r'.final = r.final.without x.attempts
  /-- The same findings come up as new, under the same ids. -/
  created : x.created s = x.attempts ++ x.ofFindings.created s
  /-- The same ones are handed to the notifier, in the same order. -/
  announced : announced r'.calls = (announced r.calls).filter (·.status ≠ .attempted)
  /-- The same ones are held back. -/
  heldBack : x.ofFindings.heldBack s r'.calls =
    (x.heldBack s r.calls).filter (·.status ≠ .attempted)
  /-- The whole pass counts what it holds back. -/
  suppressed : ∃ report, verdict r = .ok report ∧
    report.suppressed = (x.heldBack s r.calls).length
  /-- So does the pass over the findings. -/
  suppressed_ofFindings : ∃ report, verdict r' = .ok report ∧
    report.suppressed = (x.ofFindings.heldBack s r'.calls).length

/-- **A pass over a batch is one over its findings, and a record for each attempted
enforcement.** -/
theorem setsApart_run_prompt (clock : Call → Instant)
    (notify : Alert → Except NotifyError Unit) (hs : s.denied = false) (hx : x.Unnamed)
    (hf : x.DrawsFresh s) :
    x.SetsApart s (x.run (.prompt clock notify) s) (x.ofFindings.run (.prompt clock notify) s) := by
  obtain ⟨calls, report, hrun, htold, hcount⟩ := exists_counting_run clock notify hs hx hf
  obtain ⟨calls', report', hrun', htold', hcount'⟩ := exists_counting_run (s := s) clock notify
    hs (unnamed_ofFindings hx) (drawsFresh_ofFindings hf)
  have hcreated := created_eq_append hx s
  have hmem : ∀ a ∈ x.attempts, a ∈ x.created s := fun a ha =>
    hcreated ▸ List.mem_append_left _ ha
  have hannounced : AlertLedger.announced calls' =
      (AlertLedger.announced calls).filter (·.status ≠ .attempted) := by
    rw [htold, htold', notices_ofFindings hx]
  rw [hrun, hrun']
  exact {
    distinct := by
      have h := nodup_ids_created hx hf
      rw [hcreated, List.map_append] at h
      exact h.of_append_left
    stored := fun a ha => (mem_fulfilled_iff hx hf).mpr (.inr (hmem a ha))
    records := fulfilled_ofFindings clock hx hf
    created := hcreated
    announced := hannounced
    heldBack := heldBack_ofFindings hx s hannounced
    suppressed := ⟨report, rfl, hcount⟩
    suppressed_ofFindings := ⟨report', rfl, hcount'⟩ }

end Pass

/-! ## 3. Passes that come later -/

/-- Whether a store has records of attempted enforcements. -/
def Store.HasAttempted (s : Store) (as : List Alert) : Prop :=
  ∀ a ∈ as, a ∈ s.records ∧ a.status = .attempted

namespace Pass

variable {y : Pass} {s : Store} {as : List Alert} {clock : Call → Instant}
  {notify : Alert → Except NotifyError Unit}

theorem not_isMatch_of_attempted (fs : List ScopeFilter) {a : Alert} (h : a.status = .attempted) :
    (Query.inScope fs).isMatch a = false :=
  Query.not_isMatch_inScope fs (by simp [h])

theorem plan_without (y : Pass) (h : s.HasAttempted as) : y.plan (s.without as) = y.plan s := by
  have hselect : (s.without as).select (.inScope y.filters) = s.select (.inScope y.filters) :=
    Store.select_without fun a ha => not_isMatch_of_attempted y.filters (h a ha).2
  rw [plan, plan, hselect]

/-- A record in scope has another id than those of attempted enforcements. -/
theorem id_ne_of_isMatch (h : s.HasAttempted as) {a r : Alert} (ha : a ∈ as) (hr : r ∈ s.records)
    (hq : (Query.inScope y.filters).isMatch r = true) : a.id ≠ r.id := by
  intro e
  obtain ⟨hmem, hstatus⟩ := h a ha
  have hne := Query.not_attempted_of_isMatch_inScope hq
  rw [← Store.eq_of_id_eq hmem hr e] at hne
  exact hne hstatus

/-- **No plan comes across records of attempted enforcements.** -/
theorem only_passesBy_carryOut (h : s.HasAttempted as) (hy : y.Unnamed) (hf : y.DrawsFresh s) :
    (y.carryOut (y.plan s)).Only (Call.PassesBy as) := by
  refine (only_carryOut y (y.plan s)).imp fun c hc => ?_
  obtain ⟨u, hu, rfl⟩ | ⟨b, hb, rfl | rfl | rfl⟩ | ⟨r, hr, rfl⟩ := hc
  · intro a ha
    obtain ⟨r, d, hstands, _, hsucceed⟩ := mem_updated_plan_iff.mp hu
    rw [← Alert.settled_of_succeed hsucceed, Alert.id_settled]
    exact id_ne_of_isMatch h ha hstands.mem hstands.isMatch
  · intro a ha
    rw [← Bool.not_eq_true, Query.isMatch_resolvedFor, (h a ha).2]
    exact fun hq => by cases hq.1
  · trivial
  · intro a ha e
    have hnone := get?_of_mem_created hy hf hb
    rw [← e, Store.get?_of_mem (h a ha).1] at hnone
    cases hnone
  · intro a ha
    obtain ⟨hmem, hq, _⟩ := mem_stale_plan_iff.mp hr
    exact id_ne_of_isMatch h ha hmem hq

theorem run_prompt_of_denied (y : Pass) (hs : s.denied = true) :
    y.run (.prompt clock notify) s =
      ⟨[.search (.inScope y.filters)], .ok (.error (.query Store.accessRevoked)), s⟩ := by
  have hanswer (now : Instant) : s.answer now notify (.search (.inScope y.filters)) =
      (.error Store.accessRevoked, s) := by
    show (s.search _, s) = _
    rw [Store.search, if_pos hs]
    rfl
  show Course.run _ (.ask (.search (.inScope y.filters)) _) s = _
  rw [run_ask_prompt, hanswer]
  rfl

theorem run_prompt_of_granted (y : Pass) (hs : s.denied = false) :
    y.run (.prompt clock notify) s =
      ((y.carryOut (y.plan s) >>= fun p => .done p.finish).run (.prompt clock notify) s).after
        [.search (.inScope y.filters)] := by
  show Course.run _ (.ask (.search (.inScope y.filters)) _) s = _
  rw [run_ask_prompt, answer_search hs]
  rfl

section Later

variable (h : s.HasAttempted as) (hy : y.Unnamed) (hf : y.DrawsFresh s)
include h hy hf

/-- **A pass goes the same way without records of attempted enforcements**, call by call. -/
theorem run_without : y.run (.prompt clock notify) (s.without as) =
    (y.run (.prompt clock notify) s).without as := by
  cases hs : s.denied with
  | true =>
    rw [run_prompt_of_denied y hs, run_prompt_of_denied (s := s.without as) y hs]
    rfl
  | false =>
    have honly : (y.carryOut (y.plan s) >>= fun p => Course.done p.finish).Only
        (Call.PassesBy as) := (only_passesBy_carryOut h hy hf).bind fun _ => trivial
    rw [run_prompt_of_granted y hs, run_prompt_of_granted (s := s.without as) y hs,
      plan_without y h, Course.run_without honly]
    rfl

/-- And it leaves them as they are. -/
theorem hasAttempted_final : (y.run (.prompt clock notify) s).final.HasAttempted as := by
  intro a ha
  refine ⟨?_, (h a ha).2⟩
  cases hs : s.denied with
  | true =>
    rw [run_prompt_of_denied y hs]
    exact (h a ha).1
  | false =>
    have honly : (y.carryOut (y.plan s) >>= fun p => Course.done p.finish).Only
        (Call.PassesBy as) := (only_passesBy_carryOut h hy hf).bind fun _ => trivial
    rw [run_prompt_of_granted y hs]
    refine Store.mem_of_get? (?_ : Store.get? _ a.id = some a)
    rw [← Store.get?_of_mem (h a ha).1]
    exact Course.get?_run_of_passesBy honly s ha

end Later

/-- Passes made one after the other from a store, and again from the store without some records, go
the same way: each makes the same plan and the same calls and comes to the same outcome, and the
stores never differ in more than these records. -/
def GoAlike (as : List Alert) : Store → Store → List Round → Prop
  | s, t, [] => t = s.without as ∧ ∀ a ∈ as, a ∈ s.records
  | s, t, y :: ys =>
    let r := y.run s
    let r' := y.run t
    (t = s.without as ∧ ∀ a ∈ as, a ∈ s.records) ∧ y.pass.plan t = y.pass.plan s ∧
      r'.calls = r.calls ∧ r'.outcome = r.outcome ∧ GoAlike as r.final r'.final ys

/-- **No later pass comes across records of attempted enforcements.** -/
theorem goAlike {ys : List Round} (h : s.HasAttempted as) (hys : ∀ y ∈ ys, y.pass.Unnamed)
    (hf : DrawsFreshInTurn s ys) : GoAlike as s (s.without as) ys := by
  induction ys generalizing s with
  | nil => exact ⟨rfl, fun a ha => (h a ha).1⟩
  | cons y ys ih =>
    obtain ⟨hfy, hrest⟩ := hf
    have hy := hys y List.mem_cons_self
    have hrun : y.run (s.without as) = (y.run s).without as := run_without h hy hfy
    have hlater := ih (hasAttempted_final h hy hfy) (fun z hz => hys z (List.mem_cons_of_mem y hz))
      hrest
    refine ⟨⟨rfl, fun a ha => (h a ha).1⟩, plan_without y.pass h, ?_, ?_, ?_⟩
    · rw [hrun]
      rfl
    · rw [hrun]
      rfl
    · rw [hrun]
      exact hlater

/-- **Attempted enforcements stand apart.** A pass treats everything else as it does without them,
and no later pass comes across the records that it makes of them. -/
theorem attempted_stand_apart (x : Pass) (s : Store) (clock : Call → Instant)
    (notify : Alert → Except NotifyError Unit) (hs : s.denied = false) (hx : x.Unnamed)
    (hf : x.DrawsFresh s) :
    let r := x.run (.prompt clock notify) s
    let r' := x.ofFindings.run (.prompt clock notify) s
    x.SetsApart s r r' ∧
      ∀ ys : List Round, (∀ y ∈ ys, y.pass.Unnamed) → DrawsFreshInTurn r.final ys →
        GoAlike x.attempts r.final r'.final ys := by
  intro r r'
  have hapart : x.SetsApart s r r' := setsApart_run_prompt clock notify hs hx hf
  refine ⟨hapart, fun ys hys hfresh => ?_⟩
  rw [hapart.records]
  exact goAlike (fun a ha => ⟨hapart.stored a ha, status_of_mem_attempts ha⟩) hys hfresh

/-- An active record, and one of another finding that was resolved an hour before the pass. -/
def shellAndNet : Store where
  records := [.raised "a" "shell" .runtime 1, (Alert.raised "b" "net" .runtime 1).resolve (.hour 2)]
  denied := false
  ascending := by decide
  named := by decide

/-- A pass that detects both findings, and reports an attempted enforcement of each. -/
def enforcing : Pass :=
  hourly 'x' 3 [.raised "" "net" .runtime 3, { Alert.raised "" "net" .runtime 3 with
    status := .attempted }, .raised "" "shell" .runtime 3, { Alert.raised "" "shell" .runtime 3 with
    status := .attempted }]

/-- The enforcement of the finding that is kept quiet is kept quiet as well, under an id that comes
before that of the finding; the pass an hour later resolves the findings and nothing else. -/
theorem attempted_stand_apart_enforcing :
    let r := enforcing.run (.prompt (fun _ => .hour 3) fun _ => .ok ()) shellAndNet
    let r' := enforcing.ofFindings.run (.prompt (fun _ => .hour 3) fun _ => .ok ()) shellAndNet
    (enforcing.SetsApart shellAndNet r r' ∧
      GoAlike enforcing.attempts r.final r'.final [hourlyRound 'y' 4 []]) ∧
    (announced r.calls).map (·.id) = ["xx"] ∧
    r.final.records.map (fun a => (a.id, a.status)) =
      [("a", .active), ("b", .resolved), ("x", .attempted), ("xx", .attempted), ("xxx", .active)] ∧
    r'.final.records.map (fun a => (a.id, a.status)) =
      [("a", .active), ("b", .resolved), ("xxx", .active)] := by
  intro r r'
  obtain ⟨hapart, hlater⟩ := attempted_stand_apart enforcing shellAndNet (fun _ => .hour 3)
    (fun _ => .ok ()) rfl (by unfold Unnamed; decide) (drawsFresh_of_tally rfl (by decide))
  refine ⟨⟨hapart, hlater [hourlyRound 'y' 4 []] ?_ ⟨?_, trivial⟩⟩,
    by decide +kernel, by decide +kernel, by decide +kernel⟩
  · unfold Unnamed
    decide
  · exact drawsFresh_of_tally rfl (by decide +kernel)

end Pass

end AlertLedger
