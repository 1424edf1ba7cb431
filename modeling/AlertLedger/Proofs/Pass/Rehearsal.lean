import AlertLedger.Pass.Rehearsal
import AlertLedger.Proofs.Call.Keeping

/-!
# Rehearsals keep their store

The faults of a script fail calls, delay them or cancel the pass, and all of this leaves the store
with what the calls served have done to it (`rehearsal_keep`). Two kinds of script fall outside:
those that have a search find other records than the store's, and those by which the store knows
an alert under another id than the pass.
-/

namespace AlertLedger

variable {now : Instant} {idName : String → String} {script : Script}

/-- A call under a fault is served, or it fails without effect. -/
theorem attends_perform (hname : idName = id) {answer : FaultAnswer}
    (hfound : ∀ rs, answer ≠ .found rs) (s : Store) (c : Call) :
    s.Attends now c (.answered (Rehearsal.perform now idName s answer c).1)
      (Rehearsal.perform now idName s answer c).2 := by
  subst hname
  have hserved : s.Attends now c (.answered (s.answer now (fun _ => .ok ()) c).1)
      (s.answer now (fun _ => .ok ()) c).2 := .served _
  have hstore : ∀ e, s.Attends now c (.answered (c.failure e (.timeout ⟨c.operation, .zero⟩))) s :=
    fun e => .failed e _ false
  have hnotify : ∀ e, s.Attends now c (.answered (c.failure Store.accessRevoked e)) s :=
    fun e => .failed _ e false
  cases answer with
  | found rs => exact absurd rfl (hfound rs)
  | real => cases c <;> exact hserved
  | storeError e =>
    cases c with
    | dispatch a => exact hserved
    | _ => exact hstore e
  | notifyError e =>
    cases c with
    | dispatch a => exact hnotify e
    | _ => exact hserved

/-- **The collaborators of a rehearsal keep the store.** -/
theorem rehearsal_keep (hname : script.idName = id)
    (hfound : ∀ f ∈ script.faults, ∀ rs, f.answer ≠ .found rs) (limit deadline : Option Span) :
    (Rehearsal.collaborators now script limit deadline).Keep (fun t => t.state.store) now := by
  refine timed_keep Rehearsal.store (fun _ _ => rfl) fun r c => ?_
  refine attends_perform hname (fun rs => ?_) r.store c
  cases h : script.faults.find? (·.fits c ((c.kind :: r.started).count c.kind)) with
  | none =>
    intro e
    cases e
  | some f => exact hfound f (List.mem_of_find?_eq_some h) rs

end AlertLedger
