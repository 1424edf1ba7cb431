import AlertLedger.Proofs.Pass.RateLimit
import AlertLedger.Proofs.Pass.Retry

/-!
# Passes in a row

An `Attempt` is a pass together with those who attend to it, who keep the store and may let fail,
cut off or refuse what they like; every rehearsal is one (`Attempt.rehearsal`). In a series each
attempt finds the store that the one before it left (`turns`), and the exchanges of all of them lead
from the store at the beginning to the one at the end (`leads_history`).

Ids are drawn afresh throughout a series (`FreshIds`): none is empty, none comes twice in one pass
or in two, and no record has one at the beginning. Then those of each attempt are fresh when its
turn comes (`drawsFresh_of_mem_turns`).
-/

namespace AlertLedger

/-! ## 1. Attempts -/

/-- Collaborators who answer at once, but for calls that cancel the pass and calls that fail. -/
def Collaborators.disturbed (now : Instant) (cancels fails : Call → Bool) :
    Collaborators Store where
  attend s c :=
    if cancels c then (.cut .cancelled, s)
    else if fails c then
      (.answered (c.failure (.unavailable "no route") (.timeout ⟨c.operation, .zero⟩)), s)
    else (Collaborators.prompt (fun _ => now) fun _ => .ok ()).attend s c

theorem disturbed_keep (now : Instant) (cancels fails : Call → Bool) :
    (Collaborators.disturbed now cancels fails).Keep id now := by
  intro s c
  unfold Collaborators.disturbed
  simp only
  split
  · exact .cut .cancelled false
  · split
    · exact .failed _ _ false
    · exact prompt_keep now _ s c

/-- A pass as it is made: with those who attend to it, and how they begin with a store. -/
structure Attempt where
  pass : Pass
  State : Type
  collaborators : Collaborators State
  store : State → Store
  opening : Store → State
  store_opening : ∀ s, store (opening s) = s
  keeps : collaborators.KeepByAnyClock store

namespace Attempt

/-- A rehearsal of a pass, which may have been cancelled beforehand. -/
def rehearsal (x : Pass) (script : Script) (limit deadline : Option Span) (cancelled : Bool)
    (hname : script.idName = id) (hfound : ∀ f ∈ script.faults, ∀ rs, f.answer ≠ .found rs) :
    Attempt where
  pass := x
  State := Timed Rehearsal
  collaborators := Rehearsal.collaborators x.now script limit deadline
  store t := t.state.store
  opening s := ⟨⟨s, []⟩, 0, cancelled⟩
  store_opening _ := rfl
  keeps := (rehearsal_keep hname hfound limit deadline).byAnyClock

/-- An attempt in which some calls cancel the pass and others fail. -/
def disturbed (x : Pass) (cancels fails : Call → Bool) : Attempt where
  pass := x
  State := Store
  collaborators := .disturbed x.now cancels fails
  store := id
  opening := id
  store_opening _ := rfl
  keeps := (disturbed_keep x.now cancels fails).byAnyClock

variable {y : Attempt} {s : Store}

/-- What happens in an attempt, call by call. -/
def trace (y : Attempt) (s : Store) : List Exchange :=
  y.pass.course.trace y.collaborators y.store (y.opening s)

/-- The store that an attempt leaves. -/
def leaves (y : Attempt) (s : Store) : Store :=
  y.store (y.pass.run y.collaborators (y.opening s)).final

theorem leads_trace (y : Attempt) (s : Store) : Leads s (y.trace s) (y.leaves s) := by
  have h := AlertLedger.leads_trace y.keeps y.pass.course (y.opening s)
  rwa [y.store_opening] at h

/-- What an attempt asks for. -/
theorem asks_of_mem_trace {e : Exchange} (he : e ∈ y.trace s) :
    e.call = .search (.inScope y.pass.filters) ∨
      Pass.Plan.Asks (y.pass.plan s) (y.pass.created s) e.call := by
  have h := Pass.asks_of_mem_trace y.keeps he
  rwa [y.store_opening] at h

section Fresh

variable (hx : y.pass.Unnamed) (hf : y.pass.DrawsFresh s)
include hx hf

theorem underway_of_mem_moments :
    (∀ m ∈ moments s (y.trace s), y.pass.Underway s m) ∧ y.pass.Underway s (y.leaves s) := by
  have hf' : y.pass.DrawsFresh (y.store (y.opening s)) := (y.store_opening s).symm ▸ hf
  have h := Pass.underway_of_mem_moments y.keeps hx hf'
  rwa [y.store_opening] at h

theorem exists_get?_after {e : Exchange} (he : e ∈ y.trace s) {r : Alert}
    (hr : r ∈ e.before.records) :
    ∃ r', e.after.get? r.id = some r' ∧
      (r' = r ∨ r ∈ s.records ∧ ∃ clock, r' = y.pass.afterwards s clock r) := by
  have hf' : y.pass.DrawsFresh (y.store (y.opening s)) := (y.store_opening s).symm ▸ hf
  have h := Pass.exists_get?_after y.keeps hx hf' he hr
  rwa [y.store_opening] at h

/-- Ids that an attempt does not draw are as fresh after it as before. -/
theorem drawsFresh_leaves {x : Pass} (hfx : x.DrawsFresh s)
    (hother : ∀ m n, x.freshId m ≠ y.pass.freshId n) : x.DrawsFresh (y.leaves s) :=
  hfx.of_created hx hother (underway_of_mem_moments hx hf).2.new

end Fresh

end Attempt

/-! ## 2. Series -/

/-- An attempt in its turn: with the store that it finds. -/
structure Turn where
  found : Store
  attempt : Attempt

namespace Turn

/-- The pass of a turn. -/
def pass (u : Turn) : Pass := u.attempt.pass

/-- What happens in a turn, call by call. -/
def trace (u : Turn) : List Exchange := u.attempt.trace u.found

end Turn

/-- The turns of attempts made one after the other. -/
def turns : Store → List Attempt → List Turn
  | _, [] => []
  | s, y :: ys => ⟨s, y⟩ :: turns (y.leaves s) ys

/-- What happens in attempts made one after the other, call by call. -/
def history (s : Store) (ys : List Attempt) : List Exchange := (turns s ys).flatMap Turn.trace

variable {s : Store} {y : Attempt} {ys : List Attempt}

@[simp] theorem history_cons (s : Store) (y : Attempt) (ys : List Attempt) :
    history s (y :: ys) = y.trace s ++ history (y.leaves s) ys := by
  rw [history, turns, List.flatMap_cons]
  rfl

theorem attempt_mem_of_mem_turns {u : Turn} (hu : u ∈ turns s ys) : u.attempt ∈ ys := by
  induction ys generalizing s with
  | nil => cases hu
  | cons y ys ih =>
    rcases List.mem_cons.mp hu with rfl | hu
    · exact List.mem_cons_self
    · exact List.mem_cons_of_mem y (ih hu)

theorem mem_history {e : Exchange} : e ∈ history s ys ↔ ∃ u ∈ turns s ys, e ∈ u.trace :=
  List.mem_flatMap

/-- **A series leads from the store at the beginning to the one that its last attempt leaves.** -/
theorem leads_history (s : Store) (ys : List Attempt) :
    Leads s (history s ys) (ys.foldl (fun s y => y.leaves s) s) := by
  induction ys generalizing s with
  | nil => exact .nil s
  | cons y ys ih =>
    rw [history_cons]
    exact (y.leads_trace s).append (ih (y.leaves s))

/-- All ids that a series of attempts draws differ, and no record has one at the beginning. -/
structure FreshIds (s : Store) (ys : List Attempt) : Prop where
  unused : ∀ y ∈ ys, y.pass.DrawsFresh s
  apart : ys.Pairwise fun y z => ∀ m n, z.pass.freshId m ≠ y.pass.freshId n

theorem FreshIds.tail (h : FreshIds s (y :: ys)) (hx : y.pass.Unnamed) :
    FreshIds (y.leaves s) ys := by
  obtain ⟨hapart, hrest⟩ := List.pairwise_cons.mp h.apart
  refine ⟨fun z hz => ?_, hrest⟩
  exact Attempt.drawsFresh_leaves hx (h.unused y List.mem_cons_self)
    (h.unused z (List.mem_cons_of_mem y hz)) (hapart z hz)

/-- **Ids are fresh when their turn comes.** -/
theorem FreshIds.drawsFresh_of_mem_turns (h : FreshIds s ys) (hx : ∀ y ∈ ys, y.pass.Unnamed)
    {u : Turn} (hu : u ∈ turns s ys) : u.pass.DrawsFresh u.found := by
  induction ys generalizing s with
  | nil => cases hu
  | cons y ys ih =>
    rcases List.mem_cons.mp hu with rfl | hu
    · exact h.unused y List.mem_cons_self
    · exact ih (h.tail (hx y List.mem_cons_self)) (fun z hz => hx z (List.mem_cons_of_mem y hz)) hu

/-- A series that tallies its ids by different letters, none of which is in use, draws fresh ids. -/
theorem freshIds_of_tally (letters : List Char)
    (h : ys.map (fun y => y.pass.freshId) = letters.map Pass.tally) (hnodup : letters.Nodup)
    (hs : ∀ c ∈ letters, ∀ a ∈ s.records, c ∉ a.id.toList) : FreshIds s ys where
  unused y hy := by
    have hmem : y.pass.freshId ∈ ys.map fun y => y.pass.freshId := List.mem_map_of_mem hy
    rw [h] at hmem
    obtain ⟨c, hc, e⟩ := List.mem_map.mp hmem
    exact Pass.drawsFresh_of_tally e.symm (hs c hc)
  apart := by
    have hpair : (letters.map Pass.tally).Pairwise fun f g => ∀ m n, g m ≠ f n := by
      rw [List.pairwise_map]
      exact hnodup.imp fun hne m n => Pass.tally_ne (Ne.symm hne) m n
    rw [← h, List.pairwise_map] at hpair
    exact hpair

/-! ## 3. A series that goes wrong -/

/-- An alert about a connection to the outside at a full hour. -/
def Alert.connection (n : Nat) : Alert :=
  { raised "" "net" .runtime n with violations := [.networkFlow "to the outside" (.hour n)] }

/-- An alert about a shell started at a full hour. -/
def Alert.shell (n : Nat) : Alert :=
  { raised "" "shell" .runtime n with processEvidence := some (.of [.named "sh" (.hour n)]) }

/-- Connections are detected all the time, shells now and then. The first pass writes nothing and is
cancelled when it comes to the retirements, and the third cannot write about connections. -/
def troubled : List Attempt :=
  [.disturbed (Pass.hourly 'v' 4 [.connection 4]) (·.kind = .markStale) (·.kind = .upsert),
    .disturbed (Pass.hourly 'w' 5 [.connection 5, .shell 5]) (fun _ => false) (fun _ => false),
    .disturbed (Pass.hourly 'x' 6 [.connection 6, .shell 6]) (fun _ => false) (·.target = "net"),
    .disturbed (Pass.hourly 'y' 7 [.connection 7, .connection 6]) (fun _ => false)
      (fun _ => false)]

theorem unnamed_troubled : ∀ y ∈ troubled, y.pass.Unnamed := by
  simp only [troubled, List.forall_mem_cons]
  unfold Pass.Unnamed
  decide

theorem freshIds_troubled : FreshIds Pass.twoRecords troubled :=
  freshIds_of_tally ['v', 'w', 'x', 'y'] rfl (by decide)
    (by simp [Pass.twoRecords, Alert.raised])

end AlertLedger
