import AlertLedger.Pass.Basic
import AlertLedger.Proofs.Call.Trace

/-!
# What a pass asks for

A pass asks for the records in its scope, and then for nothing but what its plan holds
(`asks_of_mem_trace`): to write each update, to look up, announce and write each new alert, and to
retire each stale record. This is so whatever the collaborators answer and wherever they end the
pass.
-/

namespace AlertLedger.Pass

variable {σ : Type} {w : Collaborators σ} {store : σ → Store}

/-! ## 1. Which calls the steps make -/

theorem only_update (p : Progress) (a : Alert) : (update p a).Only (· = .upsert a) :=
  ⟨rfl, fun answer => by rcases answer with e | u <;> trivial⟩

theorem only_create (p : Progress) (a : Alert) : (create p a).Only (· = .upsert a) :=
  ⟨rfl, fun answer => by rcases answer with e | u <;> trivial⟩

theorem only_retire (p : Progress) (a : Alert) : (retire p a).Only (· = .markStale a.id) :=
  ⟨rfl, fun answer => by rcases answer with e | u <;> trivial⟩

theorem only_mayAnnounce (window : Span) (now : Instant) (a : Alert) :
    (mayAnnounce window now a).Only (· = .searchResolved a.key) := by
  unfold mayAnnounce
  split
  · trivial
  · exact ⟨rfl, fun answer => by rcases answer with e | records <;> trivial⟩

/-- What is asked before a new alert is written: whether it may be announced, and to announce it. -/
theorem only_announce (window : Span) (now : Instant) (p : Progress) (a : Alert) :
    (announce window now p a).Only fun c => c = .searchResolved a.key ∨ c = .dispatch a := by
  refine ((only_mayAnnounce window now a).imp fun c => Or.inl).bind fun permitted => ?_
  cases permitted with
  | false => trivial
  | true => exact ⟨.inr rfl, fun answer => by rcases answer with e | u <;> trivial⟩

theorem reads_announce (window : Span) (now : Instant) (p : Progress) (a : Alert) :
    (announce window now p a).Reads :=
  (only_announce window now p a).imp fun c h => by rcases h with rfl | rfl <;> rfl

theorem only_recordNew (window : Span) (now : Instant) (p : Progress) (a : Alert) :
    (recordNew window now p a).Only fun c =>
      c = .searchResolved a.key ∨ c = .dispatch a ∨ c = .upsert a :=
  ((only_announce window now p a).imp fun _ h => h.imp_right Or.inl).bind fun p =>
    (only_create p a).imp fun _ h => .inr (.inr h)

theorem only_each {P : Call → Prop} {step : Progress → Alert → Course Progress} {as : List Alert}
    (h : ∀ a ∈ as, ∀ p, (step p a).Only P) (p : Progress) : (each step as p).Only P := by
  induction as generalizing p with
  | nil => trivial
  | cons a as ih =>
    exact (h a List.mem_cons_self p).bind (ih fun b hb => h b (List.mem_cons_of_mem a hb))

/-! ## 2. The plan of a pass -/

/-- What a pass is going to do with a store. -/
def plan (x : Pass) (s : Store) : Plan := .of x.batch (s.select (.inScope x.filters))

/-- The new alerts of a pass, under the ids they are going to have. -/
def created (x : Pass) (s : Store) : List Alert := identify x.freshId 0 (x.plan s).new

/-- The calls that carrying out a plan makes. -/
def Plan.Asks (plan : Plan) (created : List Alert) (c : Call) : Prop :=
  (∃ a ∈ plan.updated, c = .upsert a) ∨
    (∃ a ∈ created, c = .searchResolved a.key ∨ c = .dispatch a ∨ c = .upsert a) ∨
    ∃ a ∈ plan.stale, c = .markStale a.id

theorem only_carryOut (x : Pass) (plan : Plan) :
    (x.carryOut plan).Only (Plan.Asks plan (identify x.freshId 0 plan.new)) := by
  refine (only_each (fun a ha p => ?_) _).bind fun p => (only_each (fun a ha p => ?_) _).bind
    fun p => only_each (fun a ha p => ?_) _
  · exact (only_update p a).imp fun c h => .inl ⟨a, ha, h⟩
  · exact (only_recordNew x.window x.now p a).imp fun c h => .inr (.inl ⟨a, ha, h⟩)
  · exact (only_retire p a).imp fun c h => .inr (.inr ⟨a, ha, h⟩)

/-- **A pass asks for its records, and then for nothing but its plan.** -/
theorem asks_of_mem_trace (hw : w.KeepByAnyClock store) {x : Pass} {t : σ} {e : Exchange}
    (he : e ∈ x.course.trace w store t) :
    e.call = .search (.inScope x.filters) ∨
      Plan.Asks (x.plan (store t)) (x.created (store t)) e.call := by
  obtain ⟨now, hattend⟩ := hw t (.search (.inScope x.filters))
  change e ∈ Course.trace w store (.ask _ _) t at he
  rw [Course.trace] at he
  split at he <;> rename_i h <;> rw [h] at hattend
  · rcases List.mem_cons.mp he with rfl | he
    · exact .inl rfl
    · obtain ⟨_, rfl | ⟨error, rfl⟩⟩ := hattend.answered_search
      · refine .inr (Course.Only.of_mem_trace (x := x.carryOut (x.plan (store t)) >>= _) ?_ he)
        exact (only_carryOut x (x.plan (store t))).bind fun p => trivial
      · cases he
  · rw [List.mem_singleton.mp he]
    exact .inl rfl
  · cases he

theorem mem_calls_run (hw : w.KeepByAnyClock store) (x : Pass) (t : σ) {c : Call}
    (hc : c ∈ (x.run w t).calls) :
    c = .search (.inScope x.filters) ∨ Plan.Asks (x.plan (store t)) (x.created (store t)) c := by
  have hmem : c ∈ (x.course.trace w store t).map (·.call) := by
    rw [map_call_trace]
    exact hc
  obtain ⟨e, he, rfl⟩ := List.mem_map.mp hmem
  exact asks_of_mem_trace hw he

end AlertLedger.Pass
