import AlertLedger.Command.Session
import AlertLedger.Proofs.Alert.Form
import AlertLedger.Proofs.Call.Keeping
import AlertLedger.Proofs.Pass.Created
import AlertLedger.Proofs.Store.Listing

/-!
# The state file as a store

A reconciliation that writes back reads a state file, runs its pass on the store of the alerts in
it, and writes the snapshot of that store. What is written is read back as it was
(`alertsIn_pretty`), and a store is made again from its snapshot (`Store.ofList_snapshot`), so
nothing is lost between one reconciliation and the next: they come to what they would come to on
one store that is kept in memory from the first to the last (`agree_steps`).
-/

namespace AlertLedger.Command

/-! ## 1. Reconciliations in a row -/

/-- A reconciliation: what it finds around it, its options, and what its file of detections
holds. -/
structure Invocation where
  surroundings : Surroundings
  form : OutputForm
  options : ReconcileOptions
  current : FileContent

/-- What comes of a reconciliation, over stored alerts of some kind. -/
structure Step (σ : Type) where
  /-- What the pass came to, or why there was none. -/
  verdict : Except Failure (Except PassError Report)
  outcome : Outcome
  stored : σ

/-- What a command shows that writes nothing: of its pass, or why there was none. -/
def Outcome.ofVerdict (d : Display) (told : List Event) :
    Except Failure (Except PassError Report) → Outcome
  | .ok (.ok report) => ⟨d.report report, none, none, told⟩
  | .ok (.error e) => ⟨"", some (.pass e), none, told⟩
  | .error f => .failed f

namespace Invocation

variable (i : Invocation)

/-- A reconciliation over a state file. -/
def overFile (file : FileContent) : Step FileContent :=
  match i.options.materials i.surroundings.setting file i.current with
  | .error f => ⟨.error f, .failed f, file⟩
  | .ok m =>
    let outcome := reconcile i.surroundings i.form i.options m
    { verdict :=
        if i.options.timeout.all i.surroundings.reaches then
          .ok (Pass.verdict (reconcileRun i.surroundings i.options m))
        else .error .deadlineOutOfReach
      outcome
      stored := (outcome.writing.map fun w => .text w.2).getD file }

/-- The settings and the batch of a reconciliation. -/
def prepared : Except Failure (Settings × List Alert) := do
  let settings ← (Settings.read i.surroundings.setting).mapError .configuration
  let batch ← alertsIn i.options.current i.current
  .ok (settings, batch)

/-- The run of a pass on a store. -/
def run (settings : Settings) (batch : List Alert) (s : Store) :
    Run (Timed Ledger) (Except PassError Report) :=
  let x := i.surroundings
  let pass : Pass :=
    { window := settings.window
      now := x.now
      freshId := x.freshId
      batch
      filters := i.options.filters }
  pass.run (.timed x.timers settings.callLimit i.options.timeout (Ledger.conduct x))
    ⟨⟨s, []⟩, 0, false⟩

/-- A reconciliation on a store in memory. -/
def onStore (s : Store) : Step Store :=
  let d := i.surroundings.display i.form
  match i.prepared with
  | .error f => ⟨.error f, .ofVerdict d [] (.error f), s⟩
  | .ok (settings, batch) =>
    if i.options.timeout.all i.surroundings.reaches then
      let r := i.run settings batch s
      let l := r.final.state
      ⟨.ok (Pass.verdict r), .ofVerdict d l.told (.ok (Pass.verdict r)), l.store⟩
    else ⟨.error .deadlineOutOfReach, .ofVerdict d [] (.error .deadlineOutOfReach), s⟩

end Invocation

/-- Reconciliations one after another, each over what the one before it has left. -/
def steps {σ : Type} (step : Invocation → σ → Step σ) : List Invocation → σ → List (Step σ)
  | [], _ => []
  | i :: is, s =>
    let r := step i s
    r :: steps step is r.stored

/-- A reconciliation over the state file at a path has come to the same as one on a store: what its
pass came to, what it shows and tells, and the stored alerts. If there was a pass, the file holds
the snapshot of the store. -/
structure Agree (path : String) (a : Step FileContent) (b : Step Store) : Prop where
  verdict : a.verdict = b.verdict
  outcome : { a.outcome with writing := none } = b.outcome
  stored : (storedIn path a.stored).map Store.ofList = .ok b.stored
  written : ∀ v, a.verdict = .ok v → a.stored = .text (alertsToJson b.stored.snapshot).pretty

/-! ## 2. One reconciliation -/

/-- **What is written is read back.** -/
theorem alertsIn_pretty (path : String) (as : List Alert) :
    alertsIn path (.text (alertsToJson as).pretty) = .ok as := by
  simp only [alertsIn, alertsOfJson?_read?_pretty]

theorem storedIn_pretty (path : String) (as : List Alert) :
    storedIn path (.text (alertsToJson as).pretty) = .ok as := alertsIn_pretty path as

/-- A store is made again from what is written of it. -/
theorem ofList_alertsIn_pretty (path : String) (s : Store) :
    (alertsIn path (.text (alertsToJson s.snapshot).pretty)).map Store.ofList =
      .ok (s.setDenied false) := by
  rw [alertsIn_pretty, Except.map, Store.ofList_snapshot]

theorem conduct_keep (x : Surroundings) (limit deadline : Option Span) :
    (Collaborators.timed x.timers limit deadline (Ledger.conduct x)).Keep
      (fun t => t.state.store) x.now :=
  timed_keep Ledger.store (fun _ _ => rfl) fun _ _ => .served x.notifier.announce

/-- No pass has access revoked. -/
theorem Invocation.denied_run (i : Invocation) (settings : Settings) (batch : List Alert)
    (s : Store) : (i.run settings batch s).final.state.store.denied = s.denied :=
  AlertLedger.denied_run (conduct_keep i.surroundings _ _) _ _

/-- The store that a reconciliation in memory leaves is the one its pass leaves. -/
theorem Invocation.stored_onStore (i : Invocation) {settings : Settings} {batch : List Alert}
    (h : i.prepared = .ok (settings, batch))
    (hreach : i.options.timeout.all i.surroundings.reaches = true) (s : Store) :
    (i.onStore s).stored = (i.run settings batch s).final.state.store := by
  simp only [onStore, h, if_pos hreach]

/-- What a reconciliation starts from, where the state file can be read. -/
theorem Invocation.materials_eq (i : Invocation) {file : FileContent} {stored : List Alert}
    (h : storedIn i.options.state file = .ok stored) :
    i.options.materials i.surroundings.setting file i.current =
      i.prepared.map fun (settings, batch) => { settings, stored, batch } := by
  simp only [ReconcileOptions.materials, prepared, h]
  cases (Settings.read i.surroundings.setting).mapError Failure.configuration with
  | error f => rfl
  | ok settings => cases alertsIn i.options.current i.current <;> rfl

/-- What a reconciliation shows, tells and writes, by the run of its pass. -/
theorem Invocation.reconcile_eq (i : Invocation) (m : Materials)
    (hreach : i.options.timeout.all i.surroundings.reaches = true)
    (hwrites : i.options.writesBack = true) :
    reconcile i.surroundings i.form i.options m =
      { Outcome.ofVerdict (i.surroundings.display i.form)
          (i.run m.settings m.batch (.ofList m.stored)).final.state.told
          (.ok (Pass.verdict (i.run m.settings m.batch (.ofList m.stored)))) with
        writing := some (i.options.state, (alertsToJson
          (i.run m.settings m.batch (.ofList m.stored)).final.state.store.snapshot).pretty) } := by
  have hrun : reconcileRun i.surroundings i.options m =
      i.run m.settings m.batch (.ofList m.stored) := rfl
  simp only [reconcile, if_pos hreach, hrun, hwrites, if_true]
  cases Pass.verdict (i.run m.settings m.batch (.ofList m.stored)) <;> rfl

/-- **A reconciliation over a state file comes to what it comes to on the store of the file.** -/
theorem agree_step (i : Invocation) (hwrites : i.options.writesBack = true) {file : FileContent}
    {stored : List Alert} (h : storedIn i.options.state file = .ok stored) :
    Agree i.options.state (i.overFile file) (i.onStore (.ofList stored)) := by
  have hfile : (storedIn i.options.state file).map Store.ofList = .ok (.ofList stored) := by
    rw [h]
    rfl
  unfold Invocation.overFile Invocation.onStore
  rw [i.materials_eq h]
  cases i.prepared with
  | error f => exact ⟨rfl, rfl, hfile, fun _ e => by cases e⟩
  | ok prepared =>
    obtain ⟨settings, batch⟩ := prepared
    simp only [Except.map]
    by_cases hreach : i.options.timeout.all i.surroundings.reaches = true
    · have hdenied : (i.run settings batch (.ofList stored)).final.state.store.denied = false :=
        (i.denied_run settings batch _).trans (Store.denied_foldl_add stored .empty)
      have hread := ofList_alertsIn_pretty i.options.state
        (i.run settings batch (.ofList stored)).final.state.store
      rw [Store.setDenied_of_eq hdenied] at hread
      simp only [if_pos hreach, i.reconcile_eq ⟨settings, stored, batch⟩ hreach hwrites]
      refine ⟨rfl, ?_, hread, fun _ _ => rfl⟩
      cases Pass.verdict (i.run settings batch (.ofList stored)) <;> rfl
    · have hfailed : reconcile i.surroundings i.form i.options ⟨settings, stored, batch⟩ =
          .failed .deadlineOutOfReach := if_neg hreach
      simp only [if_neg hreach, hfailed]
      exact ⟨rfl, rfl, hfile, fun _ e => by cases e⟩

/-! ## 3. Reconciliations in a row -/

theorem agree_steps (path : String) {is : List Invocation}
    (his : ∀ i ∈ is, i.options.state = path ∧ i.options.writesBack = true) {file : FileContent}
    {s : Store} (h : (storedIn path file).map Store.ofList = .ok s) :
    List.Forall₂ (Agree path) (steps Invocation.overFile is file)
      (steps Invocation.onStore is s) := by
  induction is generalizing file s with
  | nil => exact .nil
  | cons i is ih =>
    obtain ⟨hpath, hwrites⟩ := his i List.mem_cons_self
    cases hread : storedIn path file with
    | error f =>
      rw [hread] at h
      cases h
    | ok stored =>
      rw [hread] at h
      cases h
      have hstep := agree_step i hwrites (hpath ▸ hread)
      rw [hpath] at hstep
      exact .cons hstep (ih (fun j hj => his j (List.mem_cons_of_mem _ hj)) hstep.stored)

/-- **The state file is a store.** A store is made again from what is written of it: every record,
and as long as access to it is not revoked, the store itself. So reconciliations over one state file
come, one by one, to what they come to on one store that starts with the alerts of the file. -/
theorem reconciliations_agree :
    (∀ (path : String) (s : Store), ∃ t,
      (alertsIn path (.text (alertsToJson s.snapshot).pretty)).map Store.ofList = .ok t ∧
        t.records = s.records ∧ (s.denied = false → t = s)) ∧
    ∀ (path : String) (is : List Invocation),
      (∀ i ∈ is, i.options.state = path ∧ i.options.writesBack = true) →
        ∀ (file : FileContent) (stored : List Alert), storedIn path file = .ok stored →
          List.Forall₂ (Agree path) (steps Invocation.overFile is file)
            (steps Invocation.onStore is (.ofList stored)) := by
  refine ⟨fun path s => ?_, fun path is his file stored hfile => ?_⟩
  · exact ⟨s.setDenied false, ofList_alertsIn_pretty path s, rfl, Store.setDenied_of_eq⟩
  · refine agree_steps path his ?_
    rw [hfile]
    rfl

/-- A reconciliation at a full hour, of detections that are written in its file, without settings
and channels. -/
def Invocation.atHour (c : Char) (n : Nat) (batch : List Alert) : Invocation where
  surroundings := ⟨fun _ => none, .hour n, .zero, Pass.tally c, fun _ _ => .error "",
    fun _ => some 0, .ticking (.ofMillis 1) 0⟩
  form := .json
  options := ⟨"state.json", "current.json", none, none, none, true⟩
  current := .text (alertsToJson batch).pretty

/-- What a file holds: a record, and an alert without an id. -/
def shellAndUnnamed : List Alert := [.raised "a" "shell" .runtime 1, .raised "" "net" .runtime 2]

/-- The store an hour before the second of two reconciliations. -/
def shellResolved : Store where
  records := [(Alert.raised "a" "shell" .runtime 1).resolve (.hour 3), .raised "x" "net" .runtime 3]
  denied := false
  ascending := by decide
  named := by decide

/-- The alert without an id is dropped. The first reconciliation resolves the record and writes a
new one, and the second reads that one back and resolves it. -/
theorem reconciliations_agree_shellAndUnnamed :
    let is : List Invocation := [.atHour 'x' 3 [.raised "" "net" .runtime 3], .atHour 'y' 4 []]
    let inMemory := steps Invocation.onStore is (.ofList shellAndUnnamed)
    List.Forall₂ (Agree "state.json")
        (steps Invocation.overFile is (.text (alertsToJson shellAndUnnamed).pretty)) inMemory ∧
      inMemory.map (fun b => b.stored.records.map fun a => (a.id, a.key.policy, a.status)) =
        [[("a", "shell", .resolved), ("x", "net", .active)],
          [("a", "shell", .resolved), ("x", "net", .resolved)]] := by
  intro is inMemory
  refine ⟨reconciliations_agree.2 "state.json" is ?_ _ shellAndUnnamed
    (storedIn_pretty "state.json" shellAndUnnamed), ?_⟩
  · intro i hi
    simp only [is, List.mem_cons, List.not_mem_nil, or_false] at hi
    rcases hi with rfl | rfl <;> exact ⟨rfl, rfl⟩
  · have hstored (c : Char) (n : Nat) (batch : List Alert) (s : Store) :
        ((Invocation.atHour c n batch).onStore s).stored =
          ((Invocation.atHour c n batch).run ⟨.zero, none⟩ batch s).final.state.store := by
      refine Invocation.stored_onStore _ ?_ rfl s
      rw [Invocation.prepared, Invocation.atHour, alertsIn_pretty]
      rfl
    -- The store between the two is made explicit, so that it is evaluated once.
    have hbetween : ((Invocation.atHour 'x' 3 [.raised "" "net" .runtime 3]).run ⟨.zero, none⟩
        [.raised "" "net" .runtime 3] (.ofList shellAndUnnamed)).final.state.store =
          shellResolved :=
      Store.eq_of_records_eq (by decide +kernel) (by decide +kernel)
    simp only [inMemory, is, steps, List.map_cons, List.map_nil, hstored, hbetween]
    decide +kernel

end AlertLedger.Command
