import AlertLedger.Proofs.Debounce
import AlertLedger.Proofs.Pass.Locality
import AlertLedger.Proofs.Pass.NewRecords

/-!
# The quiet window from end to end

A pass asks the store for the resolved records of each new alert, takes the one resolved last and
measures the time since. Seen from outside, an announcement is held back exactly where some record
from before the pass `Silences` the finding: it is resolved, of the same policy and entity, and was
resolved less than the window ago, by plain subtraction of nanoseconds. The main statements:

* `permits_eq_true_iff`: which of several resolutions is the last, and which records a look-up
  lists, makes no difference;
* `course_measured`: nor does it make one that clocks measure no length beyond 2^63 - 1
  milliseconds;
* `debounced_run_prompt`: what a whole pass announces, counts as held back and writes.
-/

namespace AlertLedger

/-! ## 1. Records that silence a finding -/

/-- Whether a record keeps a finding from being announced: it is of that finding and resolved, and
less than the window has passed since. A resolution in the future is inside every window. -/
def Alert.Silences (r : Alert) (k : Key) (window : Span) (now : Instant) : Prop :=
  r.status = .resolved ∧ r.key = k ∧
    ∃ t, r.resolvedAt = some t ∧ now.unixNanos - t.unixNanos < window.nanos

namespace Pass

/-- **Any resolution inside the window holds an announcement back.** -/
theorem permits_eq_true_iff {window : Span} {now : Instant} {s : Store} {a : Alert}
    (hnow : now.isLeap = false)
    (hs : ∀ r ∈ s.records, ∀ t, r.resolvedAt = some t → t.isLeap = false) :
    permits window now s a = true ↔
      window.isZero = true ∨ ∀ r ∈ s.records, ¬ r.Silences a.key window now := by
  have hfound : ∀ r, r ∈ s.select (.resolvedFor a.key) ↔
      r ∈ s.records ∧ r.status = .resolved ∧ r.key = a.key := fun r => by
    rw [Store.mem_select, Query.isMatch_resolvedFor]
  have hfalse : AlertLedger.mayAnnounce window a (lastResolved? (s.select (.resolvedFor a.key)))
      now = false ↔ _ :=
    mayAnnounce_lastResolved?_eq_false_iff (fun r hr => ((hfound r).mp hr).2.2) hnow
      fun r hr => hs r ((hfound r).mp hr).1
  have hsilent : (∃ r ∈ s.select (.resolvedFor a.key), ∃ t, r.resolvedAt = some t ∧
      now.since t < window.nanos) ↔ ∃ r ∈ s.records, r.Silences a.key window now := by
    constructor
    · rintro ⟨r, hr, t, ht, hlt⟩
      obtain ⟨hmem, hstatus, hkey⟩ := (hfound r).mp hr
      rw [Instant.since_eq_sub hnow (hs r hmem t ht)] at hlt
      exact ⟨r, hmem, hstatus, hkey, t, ht, hlt⟩
    · rintro ⟨r, hmem, hstatus, hkey, t, ht, hlt⟩
      rw [← Instant.since_eq_sub hnow (hs r hmem t ht)] at hlt
      exact ⟨r, (hfound r).mpr ⟨hmem, hstatus, hkey⟩, t, ht, hlt⟩
  rw [← Bool.not_eq_false, permits, hfalse, hsilent, not_and_or, Bool.not_eq_false, not_exists]
  simp only [not_and]

end Pass

/-! ## 2. Windows that no clock measures -/

/-- A length, cut down to the longest that clocks measure. -/
def Span.measured (window : Span) : Span := ⟨min window.nanos Instant.measurable.nanos⟩

theorem isZero_measured (window : Span) : window.measured.isZero = window.isZero := by
  have h : min window.nanos Instant.measurable.nanos = 0 ↔ window.nanos = 0 := by
    simp only [Instant.measurable, Span.ofMillis, Span.millisecond]
    omega
  simp only [Span.isZero, Span.measured, h]

theorem mayAnnounce_measured (window : Span) (a : Alert) (last : Option Alert) (now : Instant) :
    mayAnnounce window.measured a last now = mayAnnounce window a last now := by
  have hle : ∀ t, (window.measured.nanos : Int) ≤ now.since t ↔
      (window.nanos : Int) ≤ now.since t := by
    intro t
    have hlt := Instant.since_lt_measurable now t
    simp only [Span.measured]
    omega
  simp only [mayAnnounce, isZero_measured, hle]

namespace Pass

/-- **A window that no clock measures is as good as the longest that clocks do**, whatever the
collaborators answer. -/
theorem course_measured (x : Pass) : ({ x with window := x.window.measured } : Pass).course =
    x.course := by
  have hask : ∀ a, mayAnnounce x.window.measured x.now a = mayAnnounce x.window x.now a := by
    intro a
    simp only [mayAnnounce, isZero_measured, mayAnnounce_measured]
  have hstep : recordNew x.window.measured x.now = recordNew x.window x.now := by
    funext p a
    rw [recordNew, recordNew, announce, announce, hask]
  have hcarry : ∀ plan, ({ x with window := x.window.measured } : Pass).carryOut plan =
      x.carryOut plan := fun plan => by
    simp only [carryOut, hstep]
  refine congrArg (Course.ask (.search (.inScope x.filters))) (funext fun answer => ?_)
  cases answer with
  | error e => rfl
  | ok records =>
    show ({ x with window := x.window.measured } : Pass).carryOut _ >>= _ = _
    rw [hcarry]
    rfl

/-! ## 3. The whole pass -/

variable {x : Pass} {s : Store}

/-- What a run of a pass does to its new alerts, as the records from before the pass have it. -/
structure Debounced (x : Pass) (s : Store) (r : Run Store (Except PassError Report)) : Prop where
  /-- A new alert is announced unless some record silences its finding. -/
  dispatched : ∀ a ∈ x.created s, .dispatch a ∈ r.calls ↔
    x.window.isZero = true ∨ ∀ q ∈ s.records, ¬ q.Silences a.key x.window x.now
  /-- What is not announced is counted as held back. -/
  suppressed : ∃ report, verdict r = .ok report ∧
    report.suppressed = (x.heldBack s r.calls).length
  /-- It is written in either case. -/
  written : ∀ a ∈ x.created s, .upsert a ∈ r.calls

/-- **A pass that nothing gets in the way of writes all of its updates and new alerts.** -/
theorem upserts_run_prompt (clock : Call → Instant) (notify : Alert → Except NotifyError Unit)
    (hs : s.denied = false) (hx : x.Unnamed) (hf : x.DrawsFresh s) :
    upserts (x.run (.prompt clock notify) s).calls = (x.plan s).updated ++ x.created s := by
  obtain ⟨es, p, hgoes, hrun, _⟩ := exists_goes_run clock notify hs hx hf
  rw [hrun]
  exact upserts_of_carriesOut (carriesOut_of_goes hgoes)

/-- **The quiet window, from end to end**: a new alert is announced where no record from before the
pass silences it, is counted as held back where one does, and is written in either case. -/
theorem debounced_run_prompt (x : Pass) (s : Store) (clock : Call → Instant)
    (notify : Alert → Except NotifyError Unit) (hs : s.denied = false) (hx : x.Unnamed)
    (hf : x.DrawsFresh s) (hnow : x.now.isLeap = false)
    (hstamps : ∀ r ∈ s.records, ∀ t, r.resolvedAt = some t → t.isLeap = false) :
    x.Debounced s (x.run (.prompt clock notify) s) := by
  obtain ⟨calls, report, hrun, htold, hcount⟩ := exists_counting_run clock notify hs hx hf
  have hupserts := upserts_run_prompt clock notify hs hx hf
  rw [hrun] at hupserts ⊢
  refine ⟨fun a ha => ?_, ⟨report, rfl, hcount⟩, fun a ha => ?_⟩
  · rw [← mem_announced, htold, notices, List.mem_filter, permits_eq_true_iff hnow hstamps]
    exact and_iff_right ha
  · rw [← mem_upserts, hupserts]
    exact List.mem_append_right _ ha

/-- A finding that was resolved at the sixth hour, and a record that does not say when it was. -/
def resolvedLater : Store where
  records := [(Alert.raised "a" "shell" .runtime 1).resolve (.hour 6),
    { Alert.raised "b" "net" .runtime 1 with status := .resolved }]
  denied := false
  ascending := by decide
  named := by decide

/-- A pass on the clock of the fifth hour, with a window of three hours. -/
def afterThree : Pass :=
  ⟨.ofParts 10800 0, .hour 5, tally 'x', [.raised "" "shell" .runtime 3,
    .raised "" "net" .runtime 3], []⟩

/-- A resolution an hour ahead of the clock holds its finding back; one without a time does not. -/
theorem debounced_resolvedLater :
    let r := afterThree.run (.prompt (fun _ => .hour 5) fun _ => .ok ()) resolvedLater
    afterThree.Debounced resolvedLater r ∧
      (announced r.calls).map (·.key) = [⟨"net", "web"⟩] ∧
      (afterThree.heldBack resolvedLater r.calls).map (·.key) = [⟨"shell", "web"⟩] := by
  intro r
  exact ⟨debounced_run_prompt afterThree resolvedLater (fun _ => .hour 5) (fun _ => .ok ())
    rfl (by unfold Unnamed; decide) (drawsFresh_of_tally rfl (by decide)) (by decide) (by decide),
    by decide +kernel, by decide +kernel⟩

end Pass

end AlertLedger
