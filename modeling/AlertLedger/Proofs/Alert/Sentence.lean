import AlertLedger.Alert.Sentence

/-!
# What the sentence about processes says

The sentence is written from three sets: the paths, the arguments that are not empty, and the users.
A summary covers a list of processes if it has just these, each value once and in ascending order
(`Summary.Covers`), so there is one summary for a list at most (`Covers.unique`), and lists with the
same three sets share it (`ToldAlike`, `Summary.of_eq_of_toldAlike`). How a sentence tells a summary
is said clause by clause by `Summary.Reads`, apart from the functions that write it. Main statement:
`renewed_reads`.
-/

namespace AlertLedger

/-! ## 1. Sets in order -/

/-- The values that occur, each once and in ascending order. Texts are ordered by their first
different characters, and these by their code points. -/
structure Enumerates {α : Type} [LT α] (as : List α) (occurs : α → Prop) : Prop where
  ascending : as.Pairwise (· < ·)
  mem_iff : ∀ x, x ∈ as ↔ occurs x

section Enumerates

variable {α : Type} [LT α]

theorem Enumerates.congr {as : List α} {occurs occurs' : α → Prop} (h : Enumerates as occurs)
    (hiff : ∀ x, occurs x ↔ occurs' x) : Enumerates as occurs' :=
  ⟨h.ascending, fun x => (h.mem_iff x).trans (hiff x)⟩

variable [Std.Trichotomous (α := α) (· < ·)]
  [Trans (α := α) (β := α) (γ := α) (· < ·) (· < ·) (· < ·)]

theorem Enumerates.unique [Std.Irrefl (α := α) (· < ·)] {as bs : List α} {occurs : α → Prop}
    (ha : Enumerates as occurs) (hb : Enumerates bs occurs) : as = bs :=
  Ascending.eq_of_mem_iff ha.ascending hb.ascending fun x =>
    (ha.mem_iff x).trans (hb.mem_iff x).symm

theorem enumerates_ofList [DecidableLT α] {as : List α} {occurs : α → Prop}
    (h : ∀ x, x ∈ as ↔ occurs x) : Enumerates (Ascending.ofList as) occurs :=
  ⟨Ascending.pairwise_ofList as, fun x => Ascending.mem_ofList.trans (h x)⟩

end Enumerates

/-! ## 2. The summary of a list of processes -/

/-- Two lists of processes with the same paths, the same arguments, the empty ones aside, and the
same users. -/
structure ToldAlike (ps qs : List ProcessSighting) : Prop where
  paths : ∀ s, (∃ p ∈ ps, p.path = s) ↔ ∃ q ∈ qs, q.path = s
  arguments : ∀ s, s ≠ "" → ((∃ p ∈ ps, p.arguments = s) ↔ ∃ q ∈ qs, q.arguments = s)
  users : ∀ u, (∃ p ∈ ps, p.user = u) ↔ ∃ q ∈ qs, q.user = u

theorem ToldAlike.symm {ps qs : List ProcessSighting} (h : ToldAlike ps qs) : ToldAlike qs ps :=
  ⟨fun s => (h.paths s).symm, fun s hs => (h.arguments s hs).symm, fun u => (h.users u).symm⟩

theorem toldAlike_of_mem_iff {ps qs : List ProcessSighting} (h : ∀ p, p ∈ ps ↔ p ∈ qs) :
    ToldAlike ps qs where
  paths s := by simp only [h]
  arguments s _ := by simp only [h]
  users u := by simp only [h]

theorem ToldAlike.eq_nil {qs : List ProcessSighting} (h : ToldAlike [] qs) : qs = [] := by
  refine List.eq_nil_iff_forall_not_mem.mpr fun q hq => ?_
  obtain ⟨p, hp, _⟩ := (h.paths q.path).mpr ⟨q, hq, rfl⟩
  exact List.not_mem_nil hp

namespace Summary

/-- A summary that has the paths, the arguments and the users of a list of processes. -/
structure Covers (s : Summary) (ps : List ProcessSighting) : Prop where
  paths : Enumerates s.paths fun t => ∃ p ∈ ps, p.path = t
  arguments : Enumerates s.arguments fun t => t ≠ "" ∧ ∃ p ∈ ps, p.arguments = t
  users : Enumerates s.users fun n => ∃ p ∈ ps, p.user.toNat = n

theorem covers_of (ps : List ProcessSighting) : (Summary.of ps).Covers ps where
  paths := enumerates_ofList fun t => by simp
  arguments := enumerates_ofList fun t => by
    simp only [List.mem_filter, List.mem_map, decide_eq_true_eq]
    exact and_comm
  users := enumerates_ofList fun n => by simp

/-- A list of processes is covered by one summary only. -/
theorem Covers.unique {s t : Summary} {ps : List ProcessSighting} (hs : s.Covers ps)
    (ht : t.Covers ps) : s = t := by
  obtain ⟨paths, arguments, users⟩ := s
  obtain ⟨paths', arguments', users'⟩ := t
  obtain rfl : paths = paths' := hs.paths.unique ht.paths
  obtain rfl : arguments = arguments' := hs.arguments.unique ht.arguments
  obtain rfl : users = users' := hs.users.unique ht.users
  rfl

theorem Covers.of_toldAlike {s : Summary} {ps qs : List ProcessSighting} (hs : s.Covers ps)
    (h : ToldAlike ps qs) : s.Covers qs where
  paths := hs.paths.congr h.paths
  arguments := hs.arguments.congr fun t => and_congr_right fun ht => h.arguments t ht
  users := hs.users.congr fun n => by
    have huser : ∀ rs : List ProcessSighting,
        (∃ r ∈ rs, r.user.toNat = n) ↔ ∃ u : UInt32, u.toNat = n ∧ ∃ r ∈ rs, r.user = u := by
      intro rs
      constructor
      · intro ⟨r, hr, hn⟩
        exact ⟨r.user, hn, r, hr, rfl⟩
      · intro ⟨u, hn, r, hr, hu⟩
        exact ⟨r, hr, hu ▸ hn⟩
    rw [huser, huser]
    exact exists_congr fun u => and_congr_right fun _ => h.users u

/-- **Lists that are told alike have one summary.** -/
theorem of_eq_of_toldAlike {ps qs : List ProcessSighting} (h : ToldAlike ps qs) :
    Summary.of ps = Summary.of qs :=
  ((covers_of ps).of_toldAlike h).unique (covers_of qs)

end Summary

theorem sentenceFor_eq_of_toldAlike {ps qs : List ProcessSighting} (h : ToldAlike ps qs) :
    sentenceFor ps = sentenceFor qs := by
  by_cases hps : ps = []
  · subst hps
    rw [h.eq_nil]
  · have hqs : qs ≠ [] := by
      intro e
      subst e
      exact hps h.symm.eq_nil
    rw [sentenceFor_of_ne_nil hps, sentenceFor_of_ne_nil hqs, Summary.of_eq_of_toldAlike h]

/-! ## 3. The clauses of the sentence -/

/-- How a sentence tells which binaries were executed. -/
inductive TellsBinaries : List String → String → Prop where
  | one (path : String) : TellsBinaries [path] ("Binary " ++ inQuotes path ++ " executed")
  | several (front : List String) (last : String) (h : front ≠ []) :
    TellsBinaries (front ++ [last]) ("Binaries " ++
      (", ".intercalate (front.map inQuotes) ++ " and " ++ inQuotes last) ++ " executed")

/-- How a sentence tells with which arguments: the only ones, or how many there are. -/
inductive TellsArguments : List String → String → Prop where
  | none : TellsArguments [] " without arguments"
  | one (arguments : String) : TellsArguments [arguments] (" with arguments " ++ inQuotes arguments)
  | several (as : List String) (h : 2 ≤ as.length) :
    TellsArguments as (" with " ++ Text.Decimal.text as.length ++ " different arguments")

/-- How a sentence tells under which users: the only one, or how many there are. -/
inductive TellsUsers : List Nat → String → Prop where
  | one (user : Nat) : TellsUsers [user] (" under user ID " ++ Text.Decimal.text user)
  | several (us : List Nat) (h : 2 ≤ us.length) :
    TellsUsers us (" under " ++ Text.Decimal.text us.length ++ " different user IDs")

theorem prose_cons {s : String} {rest : List String} (h : 2 ≤ rest.length) :
    prose (s :: rest) = inQuotes s ++ ", " ++ prose rest := by
  match rest, h with
  | _ :: _ :: _, _ => rfl

/-- Commas stand between all items but the last two. -/
theorem prose_concat {front : List String} (h : front ≠ []) (last : String) :
    prose (front ++ [last]) =
      ", ".intercalate (front.map inQuotes) ++ " and " ++ inQuotes last := by
  induction front with
  | nil => exact absurd rfl h
  | cons s rest ih =>
    cases rest with
    | nil => simp [prose]
    | cons t rest =>
      rw [List.cons_append, prose_cons (by simp), ih (List.cons_ne_nil t rest)]
      simp only [List.map_cons, String.intercalate_cons_cons, String.append_assoc]

namespace Summary

variable {s : Summary}

theorem tellsBinaries (h : s.paths ≠ []) : TellsBinaries s.paths s.binaryClause := by
  rw [binaryClause, ← List.dropLast_concat_getLast h]
  by_cases hfront : s.paths.dropLast = []
  · rw [hfront]
    exact .one _
  · have hlength : (s.paths.dropLast ++ [s.paths.getLast h]).length ≠ 1 := by
      have := List.length_pos_iff.mpr hfront
      rw [List.length_append, List.length_singleton]
      omega
    rw [if_neg hlength, prose_concat hfront]
    exact .several _ _ hfront

theorem tellsArguments : TellsArguments s.arguments s.argumentClause := by
  unfold argumentClause
  split
  · rename_i h
    exact h ▸ .none
  · rename_i only h
    exact h ▸ .one only
  · rename_i hnone hone
    refine .several _ ?_
    match h : s.arguments with
    | [] => exact absurd h hnone
    | [only] => exact absurd h (hone only)
    | _ :: _ :: _ => simp

theorem tellsUsers (h : s.users ≠ []) : TellsUsers s.users s.userClause := by
  unfold userClause
  split
  · rename_i only hone
    exact hone ▸ .one only
  · rename_i hone
    refine .several _ ?_
    match hs : s.users with
    | [] => exact absurd hs h
    | [only] => exact absurd hs (hone only)
    | _ :: _ :: _ => simp

/-- Whether a sentence tells what a summary has, in three clauses. -/
def Reads (s : Summary) (sentence : String) : Prop :=
  ∃ binaries arguments users, sentence = binaries ++ arguments ++ users ∧
    TellsBinaries s.paths binaries ∧ TellsArguments s.arguments arguments ∧
    TellsUsers s.users users

theorem reads_sentence {ps : List ProcessSighting} (hs : s.Covers ps) (h : ps ≠ []) :
    s.Reads s.sentence := by
  obtain ⟨p, hp⟩ := List.exists_mem_of_ne_nil ps h
  have hpaths : s.paths ≠ [] :=
    List.ne_nil_of_mem ((hs.paths.mem_iff p.path).mpr ⟨p, hp, rfl⟩)
  have husers : s.users ≠ [] :=
    List.ne_nil_of_mem ((hs.users.mem_iff p.user.toNat).mpr ⟨p, hp, rfl⟩)
  exact ⟨_, _, _, rfl, tellsBinaries hpaths, tellsArguments, tellsUsers husers⟩

end Summary

/-! ## 4. Writing the sentence anew -/

namespace ProcessEvidence

/-- Process evidence with its sentence written anew. -/
def renewed (e : ProcessEvidence) : ProcessEvidence := .of e.processes

/-- **The sentence is a matter of three sets.** Whatever it was before, it now tells the paths, the
arguments and the users of the processes, and it is the same for whatever list has the same. -/
theorem renewed_reads (e : ProcessEvidence) (h : e.processes ≠ []) :
    (∃ s : Summary, s.Covers e.processes ∧ s.Reads e.renewed.message) ∧
      ∀ f : ProcessEvidence, ToldAlike e.processes f.processes →
        f.renewed.message = e.renewed.message := by
  have hcovers := Summary.covers_of e.processes
  refine ⟨⟨_, hcovers, ?_⟩, fun f halike => (sentenceFor_eq_of_toldAlike halike).symm⟩
  show Summary.Reads _ (sentenceFor e.processes)
  rw [sentenceFor_of_ne_nil h]
  exact Summary.reads_sentence hcovers h

/-- Three executions under an outdated sentence, and the same in another order, where one was seen a
second time, elsewhere and under another name. -/
theorem renewed_reads_downloads :
    let wget : ProcessSighting := ⟨"", "wget", "/usr/bin/wget", "-q http://x", 1000, none⟩
    let curl : ProcessSighting := ⟨"", "curl", "/usr/bin/curl", "-s http://y", 0, none⟩
    let apt : ProcessSighting := ⟨"", "apt-get", "/usr/bin/apt-get", "", 0, none⟩
    let e : ProcessEvidence := ⟨"outdated", [wget, curl, apt]⟩
    let again : ProcessSighting := ⟨"web", "fetch", "/usr/bin/curl", "-s http://y", 0, none⟩
    let f : ProcessEvidence := ⟨"", [apt, again, wget, curl]⟩
    e.processes ≠ [] ∧ f.renewed.message = e.renewed.message ∧
      e.renewed.message = "Binaries '/usr/bin/apt-get', '/usr/bin/curl' and '/usr/bin/wget'"
        ++ " executed with 2 different arguments under 2 different user IDs" := by
  intro wget curl apt e again f
  have halike : ToldAlike e.processes f.processes := by
    constructor <;> intro x <;> simp [e, f, wget, curl, apt, again] <;> grind
  exact ⟨by decide, (renewed_reads e (by decide)).2 f halike, by decide +kernel⟩

end ProcessEvidence

end AlertLedger
