import AlertLedger.Proofs.Debounce
import AlertLedger.Proofs.Pass.PostState

/-!
# The rate of announcements

In a run of passes over one scope no finding is announced twice within the quiet window
(`pairwise_log`). Between two announcements the finding must have been resolved, for a finding
that is in scope is not new; and it was resolved no earlier than it was announced, so the window
that the second announcement keeps from the last resolution it keeps from the first announcement
too. The invariant that carries this from pass to pass is `Told`.
-/

namespace AlertLedger.Pass

variable {x : Pass} {s : Store} {clock : Call → Instant} {k : Key} {t : Instant}
  {fs : List ScopeFilter}

/-! ## 1. What has been told -/

/-- A finding was announced at an instant, and that has left its mark on the store: the finding is
in scope, or there is a record of it that was resolved then or later. Times of resolution in leap
seconds, which no clock shows, are all earlier. -/
structure Told (fs : List ScopeFilter) (k : Key) (t : Instant) (s : Store) : Prop where
  held : (∃ a ∈ s.records, (Query.inScope fs).isMatch a = true ∧ a.key = k) ∨
    ∃ r ∈ s.records, r.status = .resolved ∧ r.key = k ∧ ∃ u, r.resolvedAt = some u ∧ t ≤ u
  onClock : ∀ r ∈ s.records, r.status = .resolved → r.key = k → ∀ u, r.resolvedAt = some u →
    u < t ∨ u.isLeap = false

theorem mem_fulfilled_of_resolved (clock : Call → Instant) (hx : x.Unnamed) (hf : x.DrawsFresh s)
    {r : Alert} (hr : r ∈ s.records) (hstatus : r.status = .resolved) :
    r ∈ (x.fulfilled s clock).records := by
  have hne : r.status ≠ .active := by
    rw [hstatus]
    decide
  exact (mem_fulfilled_iff hx hf).mpr
    (.inl ⟨r, hr, afterwards_of_not_isMatch (Query.not_isMatch_inScope _ hne)⟩)

/-- A record that is resolved after a pass was so before, or was retired by the pass. -/
theorem resolved_of_mem_fulfilled (hx : x.Unnamed) (hsc : x.Scoped) (hf : x.DrawsFresh s)
    {a : Alert} (ha : a ∈ (x.fulfilled s clock).records) (hstatus : a.status = .resolved) :
    a ∈ s.records ∨ ∃ r ∈ (x.plan s).stale, a = r.resolve (clock (.markStale r.id)) := by
  have hout : ¬ (Query.inScope x.filters).isMatch a = true := by
    intro hq
    rw [Query.status_of_isMatch_inScope hq] at hstatus
    cases hstatus
  rcases (mem_fulfilled_iff hx hf).mp ha with ⟨r, hr, rfl⟩ | hcreated
  · rcases afterwards_cases (x := x) clock hr with ⟨_, e⟩ | ⟨hstale, e⟩ | ⟨d, hstands, hd, _⟩
    · exact .inl (e.symm ▸ hr)
    · exact .inr ⟨r, hstale, e⟩
    · have hk := Plan.detects_of_detection? hd
      exact absurd ((isMatch_afterwards_iff hsc.covered hr).mpr ⟨hstands, hk⟩) hout
  · exact absurd (isMatch_of_mem_created_of_scoped hx hsc hcreated).1 hout

theorem mem_notices {a : Alert} :
    a ∈ x.notices s ↔ a ∈ x.created s ∧ permits x.window x.now s a = true := List.mem_filter

/-- **What is let through keeps the window** from a resolution of its finding no earlier than any
given one. -/
theorem exists_of_permits {window : Span} {now u : Instant} {a r : Alert}
    (hw : window.isZero = false) (h : permits window now s a = true) (hr : r ∈ s.records)
    (hstatus : r.status = .resolved) (hkey : r.key = a.key) (hu : r.resolvedAt = some u) :
    ∃ q ∈ s.records, q.status = .resolved ∧ q.key = a.key ∧
      ∃ v, q.resolvedAt = some v ∧ u ≤ v ∧ (window.nanos : Int) ≤ now.since v := by
  have hselect : ∀ q, q ∈ s.select (.resolvedFor a.key) ↔
      q ∈ s.records ∧ q.status = .resolved ∧ q.key = a.key := by
    intro q
    rw [Store.mem_select, Query.isMatch_resolvedFor]
  obtain ⟨q, hq, v, hv, huv, hwindow⟩ := exists_of_mayAnnounce hw h
    (fun q hq => ((hselect q).mp hq).2.2) ((hselect r).mpr ⟨hr, hstatus, hkey⟩) hu
  obtain ⟨hmem, hqstatus, hqkey⟩ := (hselect q).mp hq
  exact ⟨q, hmem, hqstatus, hqkey, v, hv, huv, hwindow⟩

theorem nanos_pos {window : Span} (hw : window.isZero = false) : 0 < window.nanos := by
  refine Nat.pos_of_ne_zero fun h => ?_
  rw [Span.isZero, h] at hw
  cases hw

/-! ## 2. One pass -/

/-- **An announcement leaves its mark.** -/
theorem told_of_mem_notices (hw : x.window.isZero = false) (hx : x.Unnamed) (hsc : x.Scoped)
    (hf : x.DrawsFresh s) (hnow : x.now.isLeap = false) {a : Alert} (ha : a ∈ x.notices s) :
    Told x.filters a.key x.now (x.fulfilled s clock) := by
  obtain ⟨hcreated, hpermits⟩ := mem_notices.mp ha
  obtain ⟨hq, hnone⟩ := isMatch_of_mem_created_of_scoped hx hsc hcreated
  refine ⟨.inl ⟨a, (mem_fulfilled_iff hx hf).mpr (.inr hcreated), hq, rfl⟩, ?_⟩
  intro r hr hstatus hkey u hu
  rcases resolved_of_mem_fulfilled hx hsc hf hr hstatus with hold | ⟨c, hstale, rfl⟩
  · obtain ⟨q, _, _, _, v, _, huv, hwindow⟩ := exists_of_permits hw hpermits hold hstatus hkey hu
    have hpos := nanos_pos hw
    have hv : v < x.now := Instant.lt_of_since_pos hnow (by omega)
    exact .inl (Int.lt_of_le_of_lt huv hv)
  · obtain ⟨hmem, hmatch, _⟩ := mem_stale_plan_iff.mp hstale
    exact absurd hkey (hnone c hmem hmatch)

/-- **The mark stays**, whatever a later pass does. -/
theorem Told.fulfilled (h : Told x.filters k t s) (hx : x.Unnamed) (hsc : x.Scoped)
    (hf : x.DrawsFresh s) (hclock : ∀ c, (clock c).isLeap = false) (ht : ∀ c, t ≤ clock c) :
    Told x.filters k t (x.fulfilled s clock) := by
  refine ⟨?_, fun r hr hstatus hkey u hu => ?_⟩
  · rcases h.held with ⟨a, ha, hq, rfl⟩ | ⟨r, hr, hstatus, hkey, u, hu, htu⟩
    · by_cases hk : Plan.Detects x.batch a.key
      · exact .inl (exists_mem_fulfilled clock hx hsc.covered hf hk)
      · -- no longer detected, so it is resolved now
        have hstale : a ∈ (x.plan s).stale := mem_stale_plan_iff.mpr ⟨ha, hq, fun h => hk h.2⟩
        refine .inr ⟨a.resolve (clock (.markStale a.id)), ?_, rfl, rfl, _, rfl, ht _⟩
        exact (mem_fulfilled_iff hx hf).mpr (.inl ⟨a, ha, afterwards_of_mem_stale hstale⟩)
    · exact .inr ⟨r, mem_fulfilled_of_resolved clock hx hf hr hstatus, hstatus, hkey, u, hu, htu⟩
  · rcases resolved_of_mem_fulfilled hx hsc hf hr hstatus with hold | ⟨c, _, rfl⟩
    · exact h.onClock r hold hstatus hkey u hu
    · rw [← Option.some.inj hu]
      exact .inr (hclock _)

/-- **What is told once keeps the window**: a later pass announces the finding no sooner. -/
theorem Told.le_since (h : Told x.filters k t s) (hw : x.window.isZero = false) (hx : x.Unnamed)
    (hsc : x.Scoped) (hnow : x.now.isLeap = false) (ht : t.isLeap = false) {a : Alert}
    (ha : a ∈ x.notices s) (hkey : a.key = k) : (x.window.nanos : Int) ≤ x.now.since t := by
  obtain ⟨hcreated, hpermits⟩ := mem_notices.mp ha
  obtain ⟨_, hnone⟩ := isMatch_of_mem_created_of_scoped hx hsc hcreated
  subst hkey
  rcases h.held with ⟨c, hc, hq, hckey⟩ | ⟨r, hr, hstatus, hrkey, u, hu, htu⟩
  · exact absurd hckey (hnone c hc hq)
  · obtain ⟨q, hq, hqstatus, hqkey, v, hv, huv, hwindow⟩ :=
      exists_of_permits hw hpermits hr hstatus hrkey hu
    have htv : t ≤ v := Instant.le_trans htu huv
    have hleap : v.isLeap = false := (h.onClock q hq hqstatus hqkey v hv).resolve_left
      (Instant.not_lt_iff.mpr htv)
    exact Int.le_trans hwindow (Instant.since_le_since hnow ht hleap htv)

/-! ## 3. Runs -/

/-- A pass that nothing gets in the way of: what it is given, the clock that stamps what it retires,
and what the notifier answers. -/
structure Round where
  pass : Pass
  clock : Call → Instant
  notify : Alert → Except NotifyError Unit

/-- The run of such a pass on a store. -/
def Round.run (x : Round) (s : Store) : Run Store (Except PassError Report) :=
  x.pass.run (.prompt x.clock x.notify) s

/-- The calls of passes made one after the other, each with the clock of its pass. -/
def log : Store → List Round → List (Instant × Call)
  | _, [] => []
  | s, x :: xs => (x.run s).calls.map (fun c => (x.pass.now, c)) ++ log (x.run s).final xs

/-- Each pass of a run draws ids that are fresh when its turn comes. -/
def DrawsFreshInTurn : Store → List Round → Prop
  | _, [] => True
  | s, x :: xs => x.pass.DrawsFresh s ∧ DrawsFreshInTurn (x.run s).final xs

/-- A pass with a given window and given filters, over a batch of alerts without ids that are all in
scope. Its clock is not in a leap second, and what it retires is stamped then or later, not in a
leap second either. -/
structure Regular (window : Span) (fs : List ScopeFilter) (x : Round) : Prop where
  window_eq : x.pass.window = window
  filters_eq : x.pass.filters = fs
  unnamed : x.pass.Unnamed
  inScope : x.pass.Scoped
  onClock : x.pass.now.isLeap = false
  stamps_onClock : ∀ c, (x.clock c).isLeap = false
  le_stamps : ∀ c, x.pass.now ≤ x.clock c

variable {window : Span} {x : Round} {xs : List Round}

/-- What such a pass does: it announces its notices and carries out its plan. -/
theorem Round.run_eq (hx : x.pass.Unnamed) (hs : s.denied = false) (hf : x.pass.DrawsFresh s) :
    (x.run s).final = x.pass.fulfilled s x.clock ∧
      announced (x.run s).calls = x.pass.notices s := by
  obtain ⟨calls, report, hrun, htold⟩ := run_prompt x.clock x.notify hs hx hf
  rw [Round.run, hrun]
  exact ⟨rfl, htold⟩

/-- **Whatever is told keeps the window for the rest of a run.** -/
theorem le_since_of_mem_log (hw : window.isZero = false) (ht : t.isLeap = false)
    (hs : s.denied = false) (h : Told fs k t s) (hreg : ∀ x ∈ xs, Regular window fs x)
    (hclock : ∀ x ∈ xs, t ≤ x.pass.now) (hfresh : DrawsFreshInTurn s xs) {u : Instant} {b : Alert}
    (hb : (u, .dispatch b) ∈ log s xs) (hkey : b.key = k) :
    (window.nanos : Int) ≤ u.since t := by
  induction xs generalizing s with
  | nil => cases hb
  | cons x xs ih =>
    obtain ⟨hf, hrest⟩ := hfresh
    have hx := hreg x List.mem_cons_self
    have hlater := hclock x List.mem_cons_self
    obtain ⟨hfinal, hcalls⟩ := Round.run_eq hx.unnamed hs hf
    obtain rfl : window = x.pass.window := hx.window_eq.symm
    obtain rfl : fs = x.pass.filters := hx.filters_eq.symm
    rw [hfinal] at hrest
    rw [log, hfinal] at hb
    rcases List.mem_append.mp hb with hb | hb
    · obtain ⟨c, hc, e⟩ := List.mem_map.mp hb
      obtain ⟨rfl, rfl⟩ := Prod.mk.inj e
      have hnotice : b ∈ x.pass.notices s := hcalls ▸ mem_announced.mpr hc
      exact h.le_since hw hx.unnamed hx.inScope hx.onClock ht hnotice hkey
    · refine ih ((denied_fulfilled x.pass s x.clock).trans hs) ?_
        (fun y hy => hreg y (List.mem_cons_of_mem x hy))
        (fun y hy => hclock y (List.mem_cons_of_mem x hy)) hrest hb
      exact h.fulfilled hx.unnamed hx.inScope hf hx.stamps_onClock fun c =>
        Instant.le_trans hlater (hx.le_stamps c)

/-- A pass announces no finding twice. -/
theorem pairwise_calls (hx : Regular window fs x) (hs : s.denied = false)
    (hf : x.pass.DrawsFresh s) :
    (x.run s).calls.Pairwise fun c d =>
      ∀ a b, c = .dispatch a → d = .dispatch b → a.key ≠ b.key := by
  have hpair : (x.pass.notices s).Pairwise fun a b => a.key ≠ b.key := by
    refine List.Pairwise.imp_of_mem ?_ ((pairwise_key_created x.pass s).filter _)
    intro a b ha _ h
    have hq := (isMatch_of_mem_created_of_scoped hx.unnamed hx.inScope (mem_notices.mp ha).1).1
    exact h.resolve_left (Query.not_attempted_of_isMatch_inScope hq)
  rw [← (Round.run_eq hx.unnamed hs hf).2, announced, List.pairwise_filterMap] at hpair
  refine hpair.imp fun {c d} h a b hc hd => h a ?_ b ?_
  · rw [hc]
  · rw [hd]

/-- **In a run of passes over one scope, two announcements of one finding are at least a window
apart.** -/
theorem pairwise_log (window : Span) (fs : List ScopeFilter) (s : Store) (xs : List Round)
    (hw : window.isZero = false) (hs : s.denied = false) (hreg : ∀ x ∈ xs, Regular window fs x)
    (hclock : xs.Pairwise fun x y => x.pass.now ≤ y.pass.now) (hfresh : DrawsFreshInTurn s xs) :
    (log s xs).Pairwise fun e e' => ∀ a b, e.2 = .dispatch a → e'.2 = .dispatch b →
      a.key = b.key → (window.nanos : Int) ≤ e'.1.since e.1 := by
  induction xs generalizing s with
  | nil => exact List.Pairwise.nil
  | cons x xs ih =>
    obtain ⟨hf, hrest⟩ := hfresh
    obtain ⟨hlater, hclock⟩ := List.pairwise_cons.mp hclock
    have hx := hreg x List.mem_cons_self
    have hreg' : ∀ y ∈ xs, Regular window fs y := fun y hy => hreg y (List.mem_cons_of_mem x hy)
    obtain ⟨hfinal, hcalls⟩ := Round.run_eq hx.unnamed hs hf
    have hs' := (denied_fulfilled x.pass s x.clock).trans hs
    rw [hfinal] at hrest
    rw [log, hfinal, List.pairwise_append]
    refine ⟨?_, ih (x.pass.fulfilled s x.clock) hs' hreg' hclock hrest, ?_⟩
    · rw [List.pairwise_map]
      exact (pairwise_calls hx hs hf).imp fun h a b hc hd hkey => absurd hkey (h a b hc hd)
    · intro e he e' he' a b ha hb hkey
      obtain ⟨c, hc, rfl⟩ := List.mem_map.mp he
      obtain ⟨u, d⟩ := e'
      obtain ⟨rfl, rfl⟩ : c = .dispatch a ∧ d = .dispatch b := ⟨ha, hb⟩
      have hnotice : a ∈ x.pass.notices s := hcalls ▸ mem_announced.mpr hc
      have htold : Told fs a.key x.pass.now (x.pass.fulfilled s x.clock) := by
        rw [← hx.filters_eq]
        exact told_of_mem_notices (hx.window_eq ▸ hw) hx.unnamed hx.inScope hf hx.onClock hnotice
      exact le_since_of_mem_log hw hx.onClock hs' htold hreg' hlater hrest he' hkey.symm

/-- Ids that no two passes of a run share, and that no record has at its beginning, are fresh in
turn. -/
theorem drawsFreshInTurn_of_pairwise (hs : s.denied = false) (hx : ∀ x ∈ xs, x.pass.Unnamed)
    (hf : ∀ x ∈ xs, x.pass.DrawsFresh s)
    (hother : xs.Pairwise fun x y => ∀ m n, y.pass.freshId m ≠ x.pass.freshId n) :
    DrawsFreshInTurn s xs := by
  induction xs generalizing s with
  | nil => trivial
  | cons x xs ih =>
    have hfx := hf x List.mem_cons_self
    have hxx := hx x List.mem_cons_self
    obtain ⟨hfirst, hother⟩ := List.pairwise_cons.mp hother
    refine ⟨hfx, ?_⟩
    rw [(Round.run_eq hxx hs hfx).1]
    refine ih ((denied_fulfilled x.pass s x.clock).trans hs)
      (fun y hy => hx y (List.mem_cons_of_mem x hy)) (fun y hy => ?_) hother
    exact (hf y (List.mem_cons_of_mem x hy)).of_created hxx (hfirst y hy) fun a ha hnone =>
      ((get?_fulfilled_of_none hxx hfx hnone).mp (Store.get?_of_mem ha)).1

/-- A pass at a full hour, with a window of two hours. -/
def hourly (c : Char) (n : Nat) (batch : List Alert) : Pass :=
  ⟨.ofParts 7200 0, .hour n, tally c, batch, []⟩

/-- Such a pass, made where nothing gets in its way. What it retires is stamped an hour later. -/
def hourlyRound (c : Char) (n : Nat) (batch : List Alert) : Round :=
  ⟨hourly c n batch, fun _ => .hour (n + 1), fun _ => .ok ()⟩

/-- A finding comes, goes, comes back an hour later, goes again and is back in the evening. -/
def flapping : List Round :=
  [hourlyRound 'v' 1 [.raised "" "shell" .runtime 1], hourlyRound 'w' 2 [],
    hourlyRound 'x' 3 [.raised "" "shell" .runtime 3], hourlyRound 'y' 4 [],
    hourlyRound 'z' 20 [.raised "" "shell" .runtime 20]]

theorem pairwise_log_flapping :
    (log .empty flapping).Pairwise fun e e' => ∀ a b, e.2 = .dispatch a →
      e'.2 = .dispatch b → a.key = b.key → (7200000000000 : Int) ≤ e'.1.since e.1 := by
  have hunnamed : ∀ x ∈ flapping, x.pass.Unnamed := by unfold Unnamed; decide
  have hscoped : ∀ x ∈ flapping, x.pass.Scoped := by unfold Scoped; decide
  have hwindow : ∀ x ∈ flapping, x.pass.window = .ofParts 7200 0 := by decide
  have hfilters : ∀ x ∈ flapping, x.pass.filters = [] := by decide
  have hclock : ∀ x ∈ flapping, x.pass.now.isLeap = false := by decide
  have hordered : flapping.Pairwise fun x y => x.pass.now ≤ y.pass.now := by decide
  have hlater : ∀ n ∈ [1, 2, 3, 4, 20], Instant.hour n ≤ .hour (n + 1) := by decide
  have hstamps : ∀ x ∈ flapping, (∀ c, (x.clock c).isLeap = false) ∧
      ∀ c, x.pass.now ≤ x.clock c := by
    intro x hx
    simp only [flapping, List.mem_cons, List.not_mem_nil, or_false] at hx
    rcases hx with rfl | rfl | rfl | rfl | rfl <;>
      exact ⟨fun _ => rfl, fun _ => hlater _ (by decide)⟩
  have hregular : ∀ x ∈ flapping, Regular (.ofParts 7200 0) [] x := fun x hx =>
    ⟨hwindow x hx, hfilters x hx, hunnamed x hx, hscoped x hx, hclock x hx, (hstamps x hx).1,
      (hstamps x hx).2⟩
  refine pairwise_log (.ofParts 7200 0) [] .empty flapping rfl rfl hregular hordered ?_
  refine drawsFreshInTurn_of_pairwise rfl hunnamed (fun x hx => ?_) ?_
  · simp only [flapping, List.mem_cons, List.not_mem_nil, or_false] at hx
    rcases hx with rfl | rfl | rfl | rfl | rfl <;>
      exact drawsFresh_of_tally rfl fun a ha => absurd ha List.not_mem_nil
  · simp only [flapping, List.pairwise_cons, List.forall_mem_cons, hourlyRound, hourly]
    simp [tally_ne]

end AlertLedger.Pass
