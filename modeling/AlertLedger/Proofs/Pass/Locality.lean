import AlertLedger.Proofs.Pass.CallOrder

/-!
# One finding at a time

A pass treats a finding as if there were nothing else: with only the alerts of the finding in its
batch, and only the records of the finding in the store, it does to them just what it does to them
in the midst of others (`local_run_prompt`, for `Pass.alone` and `Store.only`). Since the ids of new
alerts are drawn in the order of the whole batch, the pass alone draws those of the places that the
alerts of the finding have there (`place`).

The plan for a finding is made from its detection and from the record that stands for it, and both
depend on the finding alone; so do the look-ups of the quiet window. What is held back is counted by
going through the pass step by step (`Tallies`).
-/

namespace AlertLedger

/-! ## 1. The records of one finding -/

namespace Store

/-- The store with only the records of a finding. -/
def only (s : Store) (k : Key) : Store where
  records := s.records.filter (·.key = k)
  denied := s.denied
  ascending := s.ascending.filter _
  named a ha := s.named a (List.mem_filter.mp ha).1

variable {s : Store} {k : Key} {q : Query} {r : Alert}

theorem mem_only : r ∈ (s.only k).records ↔ r ∈ s.records ∧ r.key = k := by
  rw [only, List.mem_filter, decide_eq_true_eq]

theorem stands_only_iff : (s.only k).Stands q r ↔ s.Stands q r ∧ r.key = k := by
  constructor
  · intro h
    obtain ⟨hmem, hkey⟩ := mem_only.mp h.mem
    exact ⟨⟨hmem, h.isMatch, fun c hc hq e =>
      h.first c (mem_only.mpr ⟨hc, e.trans hkey⟩) hq e⟩, hkey⟩
  · rintro ⟨h, hkey⟩
    exact ⟨mem_only.mpr ⟨h.mem, hkey⟩, h.isMatch, fun c hc => h.first c (mem_only.mp hc).1⟩

/-- **The record that stands for a finding depends on the records of the finding alone.** -/
theorem standing?_select_only (s : Store) (k : Key) (q : Query) :
    Plan.standing? ((s.only k).select q) k = Plan.standing? (s.select q) k := by
  refine Option.ext fun r => ?_
  rw [standing?_select_eq_some_iff, standing?_select_eq_some_iff, stands_only_iff, and_assoc,
    and_self]

/-- So does what a look-up of the quiet window finds. -/
theorem select_only_resolvedFor (s : Store) (k : Key) :
    (s.only k).select (.resolvedFor k) = s.select (.resolvedFor k) := by
  refine select_congr fun a ha => ?_
  rw [mem_only]
  exact and_iff_left (Query.isMatch_resolvedFor.mp ha).2

end Store

/-! ## 2. The detection of one finding -/

namespace Plan

theorem findings_filter (keep : Alert → Bool) (batch : List Alert) :
    findings (batch.filter keep) = (findings batch).filter keep := by
  rw [findings, findings, List.filter_filter, List.filter_filter]
  simp only [Bool.and_comm]

theorem attempted_filter (keep : Alert → Bool) (batch : List Alert) :
    attempted (batch.filter keep) = (attempted batch).filter keep := by
  rw [attempted, attempted, List.filter_filter, List.filter_filter]
  simp only [Bool.and_comm]

/-- **The detection for a finding depends on the alerts of the finding alone.** -/
theorem detection?_filter_key (batch : List Alert) (k : Key) :
    detection? (batch.filter (·.key = k)) k = detection? batch k := by
  rw [detection?, detection?, findings_filter, withKey, withKey, List.filter_filter]
  simp only [Bool.and_self]

/-- A batch with the alerts of one finding detects this finding, if any. -/
theorem keys_findings_filter_key (batch : List Alert) (k : Key) :
    keys (findings (batch.filter (·.key = k))) = (keys (findings batch)).filter (· = k) := by
  refine Ascending.eq_of_mem_iff (Ascending.pairwise_ofList _)
    ((Ascending.pairwise_ofList _).filter _) fun l => ?_
  rw [findings_filter, List.mem_filter, decide_eq_true_eq, mem_keys, mem_keys]
  constructor
  · rintro ⟨a, ha, rfl⟩
    obtain ⟨hmem, hkey⟩ := List.mem_filter.mp ha
    exact ⟨⟨a, hmem, rfl⟩, by simpa using hkey⟩
  · rintro ⟨⟨a, ha, rfl⟩, rfl⟩
    exact ⟨a, List.mem_filter.mpr ⟨ha, by simp⟩, rfl⟩

/-- **What is new of a finding is new without the others**, in the same order, if the same record
stands for it. -/
theorem new_filter_key {batch records records' : List Alert} {k : Key}
    (h : standing? records' k = standing? records k) :
    (Plan.of (batch.filter (·.key = k)) records').new =
      (Plan.of batch records).new.filter (·.key = k) := by
  show attempted _ ++ (keys (findings _)).filterMap (new? _ records') =
    (attempted batch ++ (keys (findings batch)).filterMap (new? batch records)).filter _
  rw [attempted_filter, keys_findings_filter_key, List.filter_append, List.filterMap_filter,
    List.filter_filterMap]
  congr 1
  refine List.filterMap_congr fun l _ => ?_
  by_cases hl : l = k
  · subst hl
    have hsame : new? (batch.filter (·.key = l)) records' l = new? batch records l := by
      rw [new?, new?, fate?, fate?, detection?_filter_key, h]
    rw [if_pos (by simp), hsame]
    cases hnew : new? batch records l with
    | none => rfl
    | some a =>
      have hkey := key_of_detection? (new?_eq_some_iff.mp hnew).1
      simp [Option.filter, hkey]
  · rw [if_neg (by simpa using hl)]
    cases hnew : new? batch records l with
    | none => rfl
    | some a =>
      have hkey := key_of_detection? (new?_eq_some_iff.mp hnew).1
      simp [Option.filter, hkey, hl]

end Plan

/-! ## 3. The ids of one finding -/

/-- The place in a list that the `n`th of the elements that pass a test has there. -/
def place {α : Type} (keep : α → Bool) : List α → Nat → Nat
  | [], n => n
  | a :: as, n =>
    if keep a then
      match n with
      | 0 => 0
      | n + 1 => place keep as n + 1
    else place keep as n + 1

theorem place_injective {α : Type} (keep : α → Bool) (as : List α) :
    Function.Injective (place keep as) := by
  induction as with
  | nil => exact fun _ _ h => h
  | cons a as ih =>
    intro m n h
    unfold place at h
    split at h
    · cases m with
      | zero =>
        cases n with
        | zero => rfl
        | succ n => simp at h
      | succ m =>
        cases n with
        | zero => simp at h
        | succ n => rw [ih (Nat.succ.inj h)]
    · exact ih (Nat.succ.inj h)

namespace Pass

theorem identify_succ (f : Nat → String) (n : Nat) (as : List Alert) :
    identify f (n + 1) as = identify (fun m => f (m + 1)) n as := by
  induction as generalizing n with
  | nil => rfl
  | cons a as ih =>
    rw [identify, identify]
    split
    · rw [ih]
    · rw [ih]

/-- **Alerts picked out from others have the ids that they have among them**, if they are drawn at
the places they have there. -/
theorem filter_identify {keep : Alert → Bool} (hkeep : ∀ a id, keep { a with id := id } = keep a)
    (f : Nat → String) {as : List Alert} (has : ∀ a ∈ as, a.id = "") :
    (identify f 0 as).filter keep = identify (fun n => f (place keep as n)) 0 (as.filter keep) := by
  induction as generalizing f with
  | nil => rfl
  | cons a as ih =>
    have ha : ¬ a.hasId = true := by simp [Alert.hasId, has a List.mem_cons_self]
    have hrest := ih (fun m => f (m + 1)) fun b hb => has b (List.mem_cons_of_mem a hb)
    rw [identify, if_neg ha, identify_succ, List.filter_cons, hkeep, List.filter_cons, hrest]
    by_cases hk : keep a = true
    · rw [if_pos hk, if_pos hk, identify, if_neg ha, identify_succ]
      simp only [place, hk, if_true]
    · rw [if_neg hk, if_neg hk]
      simp only [place, hk]
      rfl

variable {x : Pass} {s : Store} {k : Key} {clock : Call → Instant}

/-- The pass for one finding: with the alerts of the finding only, and the ids that they have in the
whole pass. -/
def alone (x : Pass) (s : Store) (k : Key) : Pass :=
  { x with
    batch := x.batch.filter (·.key = k)
    freshId := fun n => x.freshId (place (·.key = k) (x.plan s).new n) }

theorem unnamed_alone (hx : x.Unnamed) (s : Store) (k : Key) : (x.alone s k).Unnamed :=
  fun a ha => hx a (List.mem_filter.mp ha).1

theorem drawsFresh_alone (hf : x.DrawsFresh s) (k : Key) : (x.alone s k).DrawsFresh (s.only k) where
  ne_empty _ := hf.ne_empty _
  injective := hf.injective.comp (place_injective _ _)
  unused n := by
    cases h : (s.only k).get? ((x.alone s k).freshId n) with
    | none => rfl
    | some r =>
      have hr := Store.get?_of_mem (Store.mem_only.mp (Store.mem_of_get? h)).1
      rw [Store.id_of_get? h] at hr
      exact absurd hr (by rw [show s.get? ((x.alone s k).freshId n) = none from hf.unused _]; simp)

/-- **The new alerts of a finding are created alone as they are created with others.** -/
theorem created_alone (hx : x.Unnamed) (s : Store) (k : Key) :
    (x.alone s k).created (s.only k) = (x.created s).filter (·.key = k) := by
  have hnew : ((x.alone s k).plan (s.only k)).new = (x.plan s).new.filter (·.key = k) :=
    Plan.new_filter_key (Store.standing?_select_only s k (.inScope x.filters))
  rw [created, created, hnew, filter_identify (fun _ _ => rfl) x.freshId]
  · rfl
  · exact fun a ha => Plan.id_of_mem_new hx ha

/-! ## 4. The store and the announcements -/

/-- **What becomes of a record depends on its finding alone.** -/
theorem afterwards_alone (clock : Call → Instant) {r : Alert} (hr : r.key = k) :
    (x.alone s k).afterwards (s.only k) clock r = x.afterwards s clock r := by
  subst hr
  have hdetection : Plan.detection? (x.alone s r.key).batch r.key = Plan.detection? x.batch r.key :=
    Plan.detection?_filter_key x.batch r.key
  have hstanding := Store.standing?_select_only s r.key (.inScope x.filters)
  rw [afterwards, afterwards, hdetection]
  show (if (Query.inScope x.filters).isMatch r then _ else r) = _
  simp only [← hstanding]
  rfl

theorem fulfilled_alone (clock : Call → Instant) (hx : x.Unnamed) (hf : x.DrawsFresh s)
    (k : Key) : (x.alone s k).fulfilled (s.only k) clock = (x.fulfilled s clock).only k := by
  refine Store.eq_of_mem_iff ?_ fun a => ?_
  · rw [denied_fulfilled]
    exact (denied_fulfilled x s clock).symm
  rw [mem_fulfilled_iff (unnamed_alone hx s k) (drawsFresh_alone hf k), Store.mem_only,
    mem_fulfilled_iff hx hf, created_alone hx, List.mem_filter, decide_eq_true_eq, or_and_right]
  refine or_congr_left ⟨?_, ?_⟩
  · rintro ⟨r, hr, rfl⟩
    obtain ⟨hmem, hkey⟩ := Store.mem_only.mp hr
    rw [afterwards_alone clock hkey]
    exact ⟨⟨r, hmem, rfl⟩, (key_afterwards x s clock r).trans hkey⟩
  · rintro ⟨⟨r, hr, rfl⟩, hkey⟩
    rw [key_afterwards] at hkey
    exact ⟨r, Store.mem_only.mpr ⟨hr, hkey⟩, afterwards_alone clock hkey⟩

/-- **What a pass announces of a finding depends on the finding alone.** -/
theorem notices_alone (hx : x.Unnamed) (s : Store) (k : Key) :
    (x.alone s k).notices (s.only k) = (x.notices s).filter (·.key = k) := by
  rw [notices, notices, created_alone hx, List.filter_filter, List.filter_filter]
  refine List.filter_congr fun a _ => ?_
  by_cases hk : a.key = k
  · subst hk
    simp only [permits, Store.select_only_resolvedFor, alone, Bool.and_comm]
  · simp [hk]

/-! ## 5. How many announcements are held back -/

section Tallies

variable {p p' p'' : Progress} {a : Alert} {es fs : List Exchange}

/-- Exchanges in which `n` alerts come up, each to be announced or counted as held back. -/
def Tallies (n : Nat) (p : Progress) (es : List Exchange) (p' : Progress) : Prop :=
  p'.report.suppressed + (announced (es.map (·.call))).length = p.report.suppressed + n

theorem Tallies.append {m n : Nat} (h : Tallies m p es p') (h' : Tallies n p' fs p'') :
    Tallies (m + n) p (es ++ fs) p'' := by
  unfold Tallies at *
  rw [List.map_append, announced_append, List.length_append]
  omega

theorem tallies_update (h : (update p a).Goes es p') : Tallies 0 p es p' := by
  obtain ⟨e, rfl, hcall, rfl⟩ := goes_update h
  rw [Tallies, List.map_singleton, hcall]
  cases e.refusal? <;> rfl

theorem tallies_create (h : (create p a).Goes es p') : Tallies 0 p es p' := by
  obtain ⟨e, rfl, hcall, rfl⟩ := goes_create h
  rw [Tallies, List.map_singleton, hcall]
  cases e.refusal? <;> rfl

theorem tallies_retire (h : (retire p a).Goes es p') : Tallies 0 p es p' := by
  obtain ⟨e, rfl, hcall, rfl⟩ := goes_retire h
  rw [Tallies, List.map_singleton, hcall]
  cases e.refusal? <;> rfl

theorem tallies_announce {window : Span} {clock : Instant}
    (h : (announce window clock p a).Goes es p') : Tallies 1 p es p' := by
  obtain ⟨asked, hasked, hrest⟩ := goes_announce h
  have hnone : announced (asked.map (·.call)) = [] := by
    rw [hasked]
    split <;> rfl
  obtain ⟨rfl, _, rfl⟩ | ⟨told, rfl, _, htold, rfl | rfl⟩ := hrest
  · rw [Tallies, hnone]
    rfl
  · rw [Tallies, List.map_append, announced_append, hnone, List.map_singleton, htold]
    rfl
  · rw [Tallies, List.map_append, announced_append, hnone, List.map_singleton, htold]
    rfl

theorem tallies_recordNew {window : Span} {clock : Instant}
    (h : (recordNew window clock p a).Goes es p') : Tallies 1 p es p' := by
  obtain ⟨asked, wrote, q, rfl, hannounce, hcreate⟩ := Course.exists_of_goes_bind h
  exact (tallies_announce hannounce).append (tallies_create hcreate)

theorem tallies_each {step : Progress → Alert → Course Progress} {n : Nat} {as : List Alert}
    (h : (each step as p).Goes es p')
    (hstep : ∀ p a es p', (step p a).Goes es p' → Tallies n p es p') :
    Tallies (n * as.length) p es p' := by
  induction as generalizing p es with
  | nil =>
    obtain ⟨rfl, rfl⟩ := h
    rfl
  | cons a as ih =>
    obtain ⟨first, rest, q, rfl, hfirst, hrest⟩ := Course.exists_of_goes_bind h
    have htally := (hstep p a first q hfirst).append (ih hrest)
    rwa [List.length_cons, Nat.mul_succ, Nat.add_comm]

theorem tallies_carryOut {plan : Plan} (h : (x.carryOut plan).Goes es p') :
    Tallies (identify x.freshId 0 plan.new).length (.start plan.unchanged.length) es p' := by
  obtain ⟨updates, rest, q, rfl, hupdates, hrest⟩ := Course.exists_of_goes_bind h
  obtain ⟨creations, retirements, q', rfl, hcreations, hretirements⟩ :=
    Course.exists_of_goes_bind hrest
  have h₁ := tallies_each hupdates fun _ _ _ _ => tallies_update
  have h₂ := tallies_each hcreations fun _ _ _ _ => tallies_recordNew
  have h₃ := tallies_each hretirements fun _ _ _ _ => tallies_retire
  have htally := h₁.append (h₂.append h₃)
  rwa [Nat.zero_mul, Nat.zero_mul, Nat.one_mul, Nat.zero_add, Nat.add_zero] at htally

end Tallies

/-- A pass that succeeds reports what it has noted. -/
theorem report_of_finish {p : Progress} {report : Report} (h : p.finish = .ok report) :
    p.report = report := by
  unfold Progress.finish at h
  split at h
  · exact Except.ok.inj h
  · cases h

/-! ## 6. The whole pass -/

/-- The new alerts that a pass does not hand to the notifier. -/
def heldBack (x : Pass) (s : Store) (calls : List Call) : List Alert :=
  (x.created s).filter (· ∉ announced calls)

theorem length_created (x : Pass) (s : Store) {calls : List Call}
    (h : announced calls = x.notices s) :
    (x.created s).length = (announced calls).length + (x.heldBack s calls).length := by
  have hheld : x.heldBack s calls =
      (x.created s).filter fun a => !permits x.window x.now s a := by
    rw [heldBack, h, notices]
    refine List.filter_congr fun a ha => ?_
    simp [ha]
  rw [hheld, h, notices]
  exact List.length_eq_length_filter_add _

variable (clock) (notify : Alert → Except NotifyError Unit)

theorem prompt_uninterrupted :
    (Collaborators.prompt clock notify).Uninterrupted fun _ => True :=
  fun _ _ _ => ⟨_, _, rfl, trivial⟩

/-- **A pass that nothing gets in the way of carries its plan out to the end**, and reports what it
has noted on the way. -/
theorem exists_goes_run (hs : s.denied = false) (hx : x.Unnamed) (hf : x.DrawsFresh s) :
    ∃ es p, (x.carryOut (x.plan s)).Goes es p ∧
      x.run (.prompt clock notify) s = ⟨.search (.inScope x.filters) :: es.map (·.call),
        .ok (.ok p.report), x.fulfilled s clock⟩ ∧
      announced (es.map (·.call)) = x.notices s := by
  obtain ⟨calls, report, hrun, htold⟩ := run_prompt clock notify hs hx hf
  have hanswer : s.answer (clock (.search (.inScope x.filters))) notify
      (.search (.inScope x.filters)) = (.ok (s.select (.inScope x.filters)), s) :=
    answer_search hs _
  have hsearch : (Collaborators.prompt clock notify).attend s (.search (.inScope x.filters)) =
      (.answered (.ok (s.select (.inScope x.filters))), s) :=
    congrArg (Prod.map Attendance.answered id) hanswer
  obtain ⟨p, hp, hgoes, _⟩ :=
    goes_trace id (prompt_uninterrupted clock notify) (x.carryOut (x.plan s)) (t := s) trivial
  have hwhole := run_of_carryOut hsearch hp
  rw [hrun, Run.mk.injEq] at hwhole
  obtain ⟨hcalls, hfinish, _⟩ := hwhole
  have hreport : p.report = report := report_of_finish (Except.ok.inj hfinish).symm
  have htrace : calls = .search (.inScope x.filters) ::
      ((x.carryOut (x.plan s)).trace (.prompt clock notify) id s).map (·.call) := by
    rw [hcalls, map_call_trace]
    rfl
  refine ⟨_, p, hgoes, ?_, ?_⟩
  · rw [hrun, htrace, hreport]
  · rw [← htold, htrace]
    rfl

/-- **A pass that nothing gets in the way of counts the new alerts it holds back.** -/
theorem exists_counting_run (hs : s.denied = false) (hx : x.Unnamed) (hf : x.DrawsFresh s) :
    ∃ calls report, x.run (.prompt clock notify) s =
        ⟨calls, .ok (.ok report), x.fulfilled s clock⟩ ∧
      announced calls = x.notices s ∧ report.suppressed = (x.heldBack s calls).length := by
  obtain ⟨es, p, hgoes, hrun, htold⟩ := exists_goes_run clock notify hs hx hf
  have hannounced : announced (.search (.inScope x.filters) :: es.map (·.call)) = x.notices s :=
    htold
  refine ⟨_, p.report, hrun, hannounced, ?_⟩
  have htally := tallies_carryOut hgoes
  rw [Tallies, htold, ← hannounced, ← created, length_created x s hannounced] at htally
  simp only [Progress.start, Report.start] at htally
  omega

/-- What a pass does to a finding, as it is when the pass is alone with the finding: `r` is the run
of the whole pass and `r'` that of the pass for the finding. -/
structure Local (x : Pass) (s : Store) (k : Key) (r r' : Run Store (Except PassError Report)) :
    Prop where
  /-- The same new alerts come up, under the same ids. -/
  created : (x.alone s k).created (s.only k) = (x.created s).filter (·.key = k)
  /-- The records of the finding are the same in the end. -/
  records : r'.final = r.final.only k
  /-- The same alerts are handed to the notifier, in the same order. -/
  announced : announced r'.calls = (announced r.calls).filter (·.key = k)
  /-- The same alerts are held back. -/
  heldBack : (x.alone s k).heldBack (s.only k) r'.calls =
    (x.heldBack s r.calls).filter (·.key = k)
  /-- The whole pass counts what it holds back. -/
  suppressed : ∃ report, verdict r = .ok report ∧
    report.suppressed = (x.heldBack s r.calls).length
  /-- So does the pass for the finding. -/
  suppressed_alone : ∃ report, verdict r' = .ok report ∧
    report.suppressed = ((x.heldBack s r.calls).filter (·.key = k)).length

/-- **A pass that nothing gets in the way of treats every finding as if there were nothing
else.** -/
theorem local_run_prompt (hs : s.denied = false) (hx : x.Unnamed) (hf : x.DrawsFresh s) (k : Key) :
    x.Local s k (x.run (.prompt clock notify) s)
      ((x.alone s k).run (.prompt clock notify) (s.only k)) := by
  obtain ⟨calls, report, hrun, htold, hcount⟩ := exists_counting_run clock notify hs hx hf
  obtain ⟨calls', report', hrun', htold', hcount'⟩ := exists_counting_run (s := s.only k) clock
    notify hs (unnamed_alone hx s k) (drawsFresh_alone hf k)
  have hannounced : AlertLedger.announced calls' =
      (AlertLedger.announced calls).filter (·.key = k) := by
    rw [htold, htold', notices_alone hx]
  have hheld : (x.alone s k).heldBack (s.only k) calls' =
      (x.heldBack s calls).filter (·.key = k) := by
    rw [Pass.heldBack, Pass.heldBack, created_alone hx, hannounced, List.filter_filter,
      List.filter_filter]
    refine List.filter_congr fun a _ => ?_
    by_cases hk : a.key = k <;> simp [hk]
  rw [hrun, hrun']
  exact {
    created := created_alone hx s k
    records := fulfilled_alone clock hx hf k
    announced := hannounced
    heldBack := hheld
    suppressed := ⟨report, rfl, hcount⟩
    suppressed_alone := ⟨report', rfl, by rw [hcount', hheld]⟩ }

end Pass

end AlertLedger
