import AlertLedger.Proofs.Alert.Succession
import Mathlib.Data.List.Nodup

/-!
# Well-formed alerts

What every alert owes its readers (`WellFormed`): it repeats no evidence, it says when it was
resolved just in case it is, and its sentence is the one that its processes call for. Whatever a
pass makes of well-formed alerts is well formed again: detections joined
(`WellFormed.foldl_absorb`), a record after a detection (`WellFormed.settled`), a record resolved
(`WellFormed.resolve`), and an alert under another id (`WellFormed.withId`).
-/

namespace AlertLedger

/-- What an older list has more is not repeated behind a list without repetitions. -/
theorem nodup_append_carried {α : Type} [Evidence α] {older newer : List α}
    (ho : older.Nodup) (hn : newer.Nodup) : (newer ++ carried older newer).Nodup := by
  refine List.nodup_append.mpr ⟨hn, ho.filter _, fun a ha b hb e => ?_⟩
  exact (mem_carried.mp hb).2 (e ▸ ha)

namespace Alert

/-- No evidence twice, a time of resolution for the resolved alone, and the right sentence. -/
structure WellFormed (a : Alert) : Prop where
  violations : a.violations.Nodup
  processes : a.processes.Nodup
  resolvedAt : a.resolvedAt.isSome = true ↔ a.status = .resolved
  message : ∀ e ∈ a.processEvidence, e.message = sentenceFor e.processes

instance (a : Alert) : Decidable a.WellFormed :=
  decidable_of_iff (a.violations.Nodup ∧ a.processes.Nodup ∧
      (a.resolvedAt.isSome = true ↔ a.status = .resolved) ∧
      ∀ e ∈ a.processEvidence, e.message = sentenceFor e.processes)
    ⟨fun h => ⟨h.1, h.2.1, h.2.2.1, h.2.2.2⟩, fun h => ⟨h.1, h.2, h.3, h.4⟩⟩

namespace WellFormed

variable {a b : Alert}

theorem withId (h : a.WellFormed) (id : String) : ({ a with id := id } : Alert).WellFormed :=
  ⟨h.violations, h.processes, h.resolvedAt, h.message⟩

theorem resolve (h : a.WellFormed) (t : Instant) : (a.resolve t).WellFormed :=
  ⟨h.violations, h.processes, by simp [Alert.resolve], h.message⟩

/-- The state of a stored record goes with its time of resolution. -/
theorem underIdentityOf (hs : a.WellFormed) (h : b.WellFormed) :
    (Alert.underIdentityOf a b).WellFormed :=
  ⟨h.violations, h.processes, hs.resolvedAt, h.message⟩

/-- The sentence is written anew where processes are carried over, and stands where none are. -/
theorem absorbProcesses (ho : a.WellFormed) (hn : b.WellFormed) :
    (Alert.absorbProcesses a b).WellFormed := by
  have hprocesses : (Alert.absorbProcesses a b).processes.Nodup := by
    rw [processes_absorbProcesses]
    exact nodup_append_carried ho.processes hn.processes
  unfold Alert.absorbProcesses at hprocesses ⊢
  split at hprocesses
  · exact hn
  · refine ⟨hn.violations, hprocesses, hn.resolvedAt, fun e he => ?_⟩
    cases he
    rfl

theorem absorb (ho : a.WellFormed) (hn : b.WellFormed) : (Alert.absorb a b).WellFormed := by
  unfold Alert.absorb
  split
  · have h := ho.absorbProcesses hn
    refine ⟨?_, h.processes, h.resolvedAt, h.message⟩
    show ((Alert.absorbProcesses a b).violations ++ carried a.violations _).Nodup
    exact nodup_append_carried ho.violations h.violations
  · exact hn

theorem foldl_absorb (h : a.WellFormed) {as : List Alert} (has : ∀ b ∈ as, b.WellFormed) :
    (as.foldl (fun kept later => later.absorb kept) a).WellFormed := by
  induction as generalizing a with
  | nil => exact h
  | cons b as ih =>
    exact ih ((has b List.mem_cons_self).absorb h) fun c hc => has c (List.mem_cons_of_mem b hc)

theorem settled (hs : a.WellFormed) (hd : b.WellFormed) : (Alert.settled a b).WellFormed := by
  cases hb : bothRuntime a b with
  | false =>
    rw [settled_of_not_bothRuntime hb]
    exact hs.underIdentityOf hd
  | true =>
    cases ht : tellsNews a b with
    | false =>
      rw [settled_of_not_tellsNews hb ht]
      exact hs
    | true =>
      rw [settled_of_tellsNews ht]
      exact hs.underIdentityOf (hs.absorb hd)

end WellFormed

end Alert

end AlertLedger
