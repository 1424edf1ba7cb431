import AlertLedger.Proofs.Alert.Carried
import AlertLedger.Proofs.Alert.Sentence
import AlertLedger.Proofs.Alert.WellFormed
import AlertLedger.Proofs.Plan.Rewrites
import Mathlib.Data.List.Perm.Basic

/-!
# Joining as an operation

What joining two alerts makes of them, and the laws it obeys. The main statements:

* `joins`: what the joined alert is, entry by entry and field by field, and what it means that
  nothing new is told;
* `joinLaws`: joining of runtime alerts is associative on evidence, an alert is joined in once and
  for all, and which of two tidy alerts is the newer one decides on nothing but the order.

Both rest on what `newer ++ carried older newer` does to lists, where the second list of evidence
follows the first without what is there already.
-/

namespace AlertLedger

/-! ## 1. Lists of evidence, one behind another -/

section Lists

variable {α : Type} [Evidence α]

/-- What the middle list has been given already is not carried over past it. -/
theorem carried_carried_append (a b c : List α) :
    carried (b ++ carried a b) c = carried b c ++ carried a (c ++ carried b c) := by
  have hpast : carried a (c ++ carried b c) = carried (carried a b) c := by
    refine Eq.trans (List.filter_congr fun x _ => ?_) List.filter_filter.symm
    rw [Bool.eq_iff_iff]
    simp only [Bool.and_eq_true, Bool.not_eq_true', isAmong_eq_false_iff, mem_append_carried,
      not_or]
  rw [hpast, carried_append_left]

/-- **How often an entry occurs** in the newer list with the older's rest behind it: as often as in
the newer if it is there at all, and else as often as in the older. -/
theorem count_append_carried [DecidableEq α] (older newer : List α) (x : α) :
    (newer ++ carried older newer).count x =
      if x ∈ newer then newer.count x else older.count x := by
  rw [List.count_append]
  split
  · rename_i hx
    have hnone : (carried older newer).count x = 0 :=
      List.count_eq_zero.mpr fun h => (mem_carried.mp h).2 hx
    rw [hnone, Nat.add_zero]
  · rename_i hx
    have hall : (carried older newer).count x = older.count x := by
      rw [carried_eq_filter]
      exact List.count_filter (by simpa using hx)
    rw [List.count_eq_zero.mpr hx, hall, Nat.zero_add]

/-- Of two lists without repetitions either may follow the other, order aside. -/
theorem append_carried_perm {xs ys : List α} (hx : xs.Nodup) (hy : ys.Nodup) :
    (ys ++ carried xs ys).Perm (xs ++ carried ys xs) := by
  refine (List.perm_ext_iff_of_nodup (nodup_append_carried hx hy)
    (nodup_append_carried hy hx)).mpr fun z => ?_
  rw [mem_append_carried, mem_append_carried, or_comm]

end Lists

namespace Alert

/-! ## 2. What two alerts are joined into -/

/-- Whether one list of evidence is another with what an older list has more behind it: each entry
that is not there yet, in the older's order and as often as there. -/
structure Follows {α : Type} [DecidableEq α] (older newer joined : List α) : Prop where
  inOrder : joined = newer ++ older.filter (· ∉ newer)
  count : ∀ x, joined.count x = if x ∈ newer then newer.count x else older.count x

theorem follows_carried {α : Type} [DecidableEq α] [Evidence α] (older newer : List α) :
    Follows older newer (newer ++ carried older newer) :=
  ⟨by rw [carried_eq_filter], count_append_carried older newer⟩

/-- What joining an older alert into a newer one does, and what it says of it. -/
structure Joins (older newer joined : Alert) (told : Bool) : Prop where
  /-- A pair that is not of runtime is not joined. -/
  apart : older.stage ≠ .runtime ∨ newer.stage ≠ .runtime → told = false ∧ joined = newer
  violations : older.stage = .runtime → newer.stage = .runtime →
    Follows older.violations newer.violations joined.violations
  processes : older.stage = .runtime → newer.stage = .runtime →
    Follows older.processes newer.processes joined.processes
  /-- Nothing but evidence changes. -/
  frame : joined = { newer with
    violations := joined.violations, processEvidence := joined.processEvidence }
  /-- Nothing new is told exactly where both have the same evidence. -/
  told_iff : older.stage = .runtime → newer.stage = .runtime →
    (told = false ↔ older.SameEvidence newer)
  /-- Where nothing new is told, nothing changes, not even the sentence. -/
  untouched : told = false → joined = newer

theorem bothRuntime_eq_false {a b : Alert} (h : a.stage ≠ .runtime ∨ b.stage ≠ .runtime) :
    bothRuntime a b = false := by
  rw [← Bool.not_eq_true, bothRuntime_iff, not_and_or]
  exact h

/-- An alert whose evidence the newer has already leaves it as it is. -/
theorem absorb_eq_self {older newer : Alert} (h : older.CarriedBy newer) :
    absorb older newer = newer := by
  cases hb : bothRuntime older newer with
  | false => exact absorb_of_not_bothRuntime hb
  | true =>
    rw [absorb_eq_extended hb, carried_eq_nil.mpr fun _ hv => h.violations hv,
      carried_eq_nil.mpr fun _ hp => h.processes hp]
    simp [extended]

theorem eq_with_evidence_of_bare {a b : Alert} (h : a.bare = b.bare) :
    a = { b with violations := a.violations, processEvidence := a.processEvidence } := by
  obtain ⟨⟩ := a
  obtain ⟨⟩ := b
  simpa [bare] using h

/-- **What two alerts are joined into**, and when that tells something new. -/
theorem joins (older newer : Alert) :
    Joins older newer (absorb older newer) (tellsNews older newer) where
  apart h :=
    have hb := bothRuntime_eq_false h
    ⟨tellsNews_of_not_bothRuntime hb, absorb_of_not_bothRuntime hb⟩
  violations ho hn := by
    rw [violations_absorb (bothRuntime_iff.mpr ⟨ho, hn⟩)]
    exact follows_carried _ _
  processes ho hn := by
    rw [processes_absorb (bothRuntime_iff.mpr ⟨ho, hn⟩)]
    exact follows_carried _ _
  frame := eq_with_evidence_of_bare (bare_absorb older newer)
  told_iff ho hn := tellsNews_eq_false_iff (bothRuntime_iff.mpr ⟨ho, hn⟩)
  untouched h := by
    cases hb : bothRuntime older newer with
    | false => exact absorb_of_not_bothRuntime hb
    | true => exact absorb_eq_self (sameEvidence_iff.mp ((tellsNews_eq_false_iff hb).mp h)).1

/-! ## 3. The laws of joining -/

/-- Whether process evidence stands under the sentence that it calls for. -/
def Rendered (a : Alert) : Prop := ∀ e ∈ a.processEvidence, e.message = sentenceFor e.processes

/-- No evidence twice, and the right sentence. -/
structure Tidy (a : Alert) : Prop where
  violations : a.violations.Nodup
  processes : a.processes.Nodup
  rendered : a.Rendered

/-- An alert with processes has them under their sentence. -/
theorem Rendered.processEvidence_eq {a : Alert} (h : a.Rendered) (hne : a.processes ≠ []) :
    a.processEvidence = some (.of a.processes) := by
  cases he : a.processEvidence with
  | none => simp [processes, he] at hne
  | some e =>
    have hprocesses : a.processes = e.processes := by rw [processes, he]
    rw [hprocesses, ProcessEvidence.of, ← h e he]

/-- The sentence is written anew where processes are carried over, and stands where none are. -/
theorem Rendered.absorb {older newer : Alert} (h : newer.Rendered) :
    (Alert.absorb older newer).Rendered := by
  cases hb : bothRuntime older newer with
  | false =>
    rw [absorb_of_not_bothRuntime hb]
    exact h
  | true =>
    rw [absorb_eq_extended hb, extended]
    by_cases hnil : carried older.processes newer.processes = []
    · rw [if_pos hnil]
      exact h
    · rw [if_neg hnil]
      intro e he
      cases he
      rfl

/-- What holds of joining three runtime alerts. -/
structure JoinLaws (a b c : Alert) : Prop where
  /-- The evidence of three alerts comes in one order, whichever two are joined first. -/
  violations_assoc : (absorb a (absorb b c)).violations = (absorb (absorb a b) c).violations
  processes_assoc : (absorb a (absorb b c)).processes = (absorb (absorb a b) c).processes
  /-- An alert that has been joined in changes nothing any more. -/
  again : absorb a (absorb a b) = absorb a b
  /-- Tidy alerts come to the same evidence either way round, -/
  violations_perm : a.Tidy → b.Tidy →
    (absorb a b).violations.Perm (absorb b a).violations
  processes_perm : a.Tidy → b.Tidy → (absorb a b).processes.Perm (absorb b a).processes
  /-- under the same sentence, -/
  message_comm : a.Tidy → b.Tidy → a.processes ≠ [] ∨ b.processes ≠ [] →
    ∃ m, (absorb a b).processEvidence.map (·.message) = some m ∧
      (absorb b a).processEvidence.map (·.message) = some m
  /-- and tell each other something new or nothing. -/
  news_comm : a.Tidy → b.Tidy → tellsNews a b = tellsNews b a

theorem tellsNews_comm (a b : Alert) : tellsNews a b = tellsNews b a := by
  cases hb : bothRuntime a b with
  | false =>
    rw [tellsNews_of_not_bothRuntime hb,
      tellsNews_of_not_bothRuntime ((bothRuntime_comm b a).trans hb)]
  | true =>
    have hb' : bothRuntime b a = true := (bothRuntime_comm b a).trans hb
    rw [Bool.eq_iff_iff, ← not_iff_not, Bool.not_eq_true, Bool.not_eq_true,
      tellsNews_eq_false_iff hb, tellsNews_eq_false_iff hb']
    exact ⟨SameEvidence.symm, SameEvidence.symm⟩

section Runtime

variable {a b c : Alert} (hab : bothRuntime a b = true) (hbc : bothRuntime b c = true)

include hab

/-- An alert has been joined in once it has been joined in. -/
theorem absorb_absorb_self : absorb a (absorb a b) = absorb a b :=
  absorb_eq_self
    ⟨fun _ hv => mem_violations_absorb.mpr (.inr ⟨hab, hv⟩),
      fun _ hp => mem_processes_absorb.mpr (.inr ⟨hab, hp⟩)⟩

/-- Processes that are there have one sentence, whichever alert is the newer. -/
theorem message_absorb_comm (ha : a.Rendered) (hb : b.Rendered)
    (hne : a.processes ≠ [] ∨ b.processes ≠ []) :
    ∃ m, (absorb a b).processEvidence.map (·.message) = some m ∧
      (absorb b a).processEvidence.map (·.message) = some m := by
  have hba : bothRuntime b a = true := (bothRuntime_comm b a).trans hab
  have hsame : ∀ p, p ∈ (absorb a b).processes ↔ p ∈ (absorb b a).processes := by
    intro p
    simp only [mem_processes_absorb, hab, hba, true_and, or_comm]
  have hsome : ∃ p, p ∈ (absorb a b).processes := by
    rcases hne with hne | hne
    · obtain ⟨p, hp⟩ := List.exists_mem_of_ne_nil _ hne
      exact ⟨p, mem_processes_absorb.mpr (.inr ⟨hab, hp⟩)⟩
    · obtain ⟨p, hp⟩ := List.exists_mem_of_ne_nil _ hne
      exact ⟨p, mem_processes_absorb.mpr (.inl hp)⟩
  obtain ⟨p, hp⟩ := hsome
  refine ⟨sentenceFor (absorb a b).processes, ?_, ?_⟩
  · rw [hb.absorb.processEvidence_eq (List.ne_nil_of_mem hp)]
    rfl
  · rw [ha.absorb.processEvidence_eq (List.ne_nil_of_mem ((hsame p).mp hp)),
      sentenceFor_eq_of_toldAlike (toldAlike_of_mem_iff hsame)]
    rfl

include hbc

/-- Either list of evidence of three alerts is the same, whichever two are joined first. -/
theorem absorb_assoc_of {α : Type} [Evidence α] {evidence : Alert → List α}
    (hjoined : ∀ {older newer : Alert}, bothRuntime older newer = true →
      evidence (absorb older newer) = evidence newer ++ carried (evidence older) (evidence newer)) :
    evidence (absorb a (absorb b c)) = evidence (absorb (absorb a b) c) := by
  obtain ⟨hsa, hsb⟩ := bothRuntime_iff.mp hab
  obtain ⟨_, hsc⟩ := bothRuntime_iff.mp hbc
  have hright : bothRuntime a (absorb b c) = true := by
    rw [bothRuntime_absorb]
    exact bothRuntime_iff.mpr ⟨hsa, hsc⟩
  have hleft : bothRuntime (absorb a b) c = true := by
    rw [bothRuntime_comm, bothRuntime_absorb]
    exact bothRuntime_iff.mpr ⟨hsc, hsb⟩
  rw [hjoined hright, hjoined hbc, hjoined hleft, hjoined hab, carried_carried_append,
    List.append_assoc]

end Runtime

/-- **The laws of joining** runtime alerts. -/
theorem joinLaws {a b c : Alert} (ha : a.stage = .runtime) (hb : b.stage = .runtime)
    (hc : c.stage = .runtime) : JoinLaws a b c := by
  have hab : bothRuntime a b = true := bothRuntime_iff.mpr ⟨ha, hb⟩
  have hba : bothRuntime b a = true := bothRuntime_iff.mpr ⟨hb, ha⟩
  have hbc : bothRuntime b c = true := bothRuntime_iff.mpr ⟨hb, hc⟩
  exact {
    violations_assoc := absorb_assoc_of hab hbc violations_absorb
    processes_assoc := absorb_assoc_of hab hbc processes_absorb
    again := absorb_absorb_self hab
    violations_perm := fun hta htb => by
      rw [violations_absorb hab, violations_absorb hba]
      exact append_carried_perm hta.violations htb.violations
    processes_perm := fun hta htb => by
      rw [processes_absorb hab, processes_absorb hba]
      exact append_carried_perm hta.processes htb.processes
    message_comm := fun hta htb hne => message_absorb_comm hab hta.rendered htb.rendered hne
    news_comm := fun _ _ => tellsNews_comm a b }

/-- A runtime alert with some violations and some programs executed. -/
def seen (messages programs : List String) : Alert :=
  { raised "" "shell" .runtime 1 with
    violations := messages.map .generic
    processEvidence := some (.of (programs.map (.named · (.hour 1)))) }

theorem joinLaws_overlapping :
    (seen ["read", "write"] ["sh"]).Tidy ∧ (seen ["write", "send"] ["curl", "sh"]).Tidy ∧
      tellsNews (seen ["read", "write"] ["sh"]) (seen ["write", "send"] ["curl", "sh"]) = true ∧
      JoinLaws (seen ["read", "write"] ["sh"]) (seen ["write", "send"] ["curl", "sh"])
        (seen ["read"] []) := by
  refine ⟨⟨?_, ?_, ?_⟩, ⟨?_, ?_, ?_⟩, ?_, joinLaws rfl rfl rfl⟩
  · simp [seen, Violation.generic]
  · simp [seen, processes]
  · intro e he
    cases he
    rfl
  · simp [seen, Violation.generic]
  · simp [seen, processes, ProcessSighting.named]
  · intro e he
    cases he
    rfl
  · decide

end Alert

end AlertLedger
