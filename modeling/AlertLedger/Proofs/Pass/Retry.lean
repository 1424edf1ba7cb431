import AlertLedger.Proofs.Pass.Rehearsal
import AlertLedger.Proofs.Pass.Underway

/-!
# Trying a pass again

Whatever goes wrong in a pass, it leaves the store on the way between what it was and what the
whole pass would make of it (`Underway`): each record is as it was or as it would be afterwards, and
what is new was to be created. From there the same pass, tried again with a clock and ids of its own
(`again`), arrives where an undisturbed pass arrives (`retry_converges`). What may differ is said by
`blur`: the ids of the alerts created, and when records were resolved.

Two facts about the way between carry this. A record that stands for its finding goes on standing
for it (`Underway.stands`), and one that is to be retired is so still, unless it is resolved already
(`Underway.mem_stale`). With them each record meets its fate at the second attempt, if it did not at
the first (`Underway.exists_get?_fulfilled_again`), and a record that met it already does not change
again (`Alert.settled_settled`).
-/

namespace AlertLedger

namespace Pass

variable {x : Pass} {s s' s'' : Store} {clock clock' : Call → Instant} {later later' : Instant}
  {f g : Nat → String}

/-! ## 1. On the way -/

/-- The same pass with another clock and other ids. -/
def again (x : Pass) (now : Instant) (f : Nat → String) : Pass :=
  { x with now := now, freshId := f }

/-- Under whatever id a new alert is created, it is in scope, and without the id it is the new alert
again. -/
theorem isMatch_of_mem_new (hx : x.Unnamed) (hsc : x.Scoped) {a b : Alert} {id : String}
    (hb : b ∈ (x.plan s).new) (h : a = { b with id := id }) :
    { a with id := "" } ∈ (x.plan s).new ∧ (Query.inScope x.filters).isMatch a = true := by
  have hid : b.id = "" := Plan.id_of_mem_new hx hb
  have hq : (Query.inScope x.filters).isMatch b = true :=
    isMatch_of_detection? hsc.covered ((mem_new_plan_iff_of_scoped hsc).mp hb).1
  subst h
  refine ⟨?_, hq⟩
  show { b with id := "" } ∈ (x.plan s).new
  rwa [← hid]

namespace Underway

section Records

variable (h : x.Underway s s') (hx : x.Unnamed) (hsc : x.Scoped)
include h hx hsc

/-- **A record that stands for a finding detected goes on standing for it.** -/
theorem stands {r r' : Alert} (hr : s.Stands (.inScope x.filters) r)
    (hk : Plan.Detects x.batch r.key) (hr' : s'.get? r.id = some r')
    (hbecame : x.Became s r r') : s'.Stands (.inScope x.filters) r' := by
  have hq : (Query.inScope x.filters).isMatch r' = true := by
    rcases hbecame with rfl | ⟨clock, rfl⟩
    · exact hr.isMatch
    · exact (isMatch_afterwards_iff hsc.covered hr.mem).mpr ⟨hr, hk⟩
  refine ⟨Store.mem_of_get? hr', hq, fun c' hc' hqc' e => ?_⟩
  rw [hbecame.key_eq] at e
  rcases h.exists_of_mem hc' with ⟨c, hc, hbecame'⟩ | hcreated
  · have hfirst := hr.first c hc (hbecame'.isMatch_of_isMatch hqc') (hbecame'.key_eq.symm.trans e)
    rw [Alert.listedBefore_iff] at hfirst ⊢
    rwa [hbecame.id_eq, hbecame.time_eq, hbecame'.id_eq, hbecame'.time_eq]
  · -- nothing is created for a finding that a record stands for
    have hnone := (isMatch_of_mem_created_of_scoped hx hsc hcreated).2
    exact absurd e.symm (hnone r hr.mem hr.isMatch)

/-- A finding detected that has a record in scope has one that stands for it, before and on the
way. -/
theorem exists_stands {c : Alert} (hc : c ∈ s.records)
    (hq : (Query.inScope x.filters).isMatch c = true) (hk : Plan.Detects x.batch c.key) :
    ∃ r r', s.Stands (.inScope x.filters) r ∧ r.key = c.key ∧ r'.id = r.id ∧
      s'.Stands (.inScope x.filters) r' ∧ r'.key = c.key := by
  obtain ⟨r, hr, hkey⟩ := Store.exists_stands hc hq
  obtain ⟨r', hr', hbecame⟩ := h.old r hr.mem
  exact ⟨r, r', hr, hkey, hbecame.id_eq, h.stands hx hsc hr (hkey ▸ hk) hr' hbecame,
    hbecame.key_eq.trans hkey⟩

/-- **A record that is to be retired is so still**, if it was not on the way. -/
theorem mem_stale (later : Instant) (f : Nat → String) {r : Alert} (hr : r ∈ (x.plan s).stale)
    (hr' : r ∈ s'.records) : r ∈ ((x.again later f).plan s').stale := by
  obtain ⟨hmem, hq, hnot⟩ := mem_stale_plan_iff.mp hr
  refine mem_stale_plan_iff.mpr ⟨hr', hq, fun ⟨hstands', hk⟩ => hnot ⟨?_, hk⟩⟩
  -- the record that stood for the finding before stands for it now, so it is this one
  obtain ⟨c, c', hc, _, hid, hc', hkey⟩ := h.exists_stands hx hsc hmem hq hk
  obtain rfl := hc'.unique hstands' hkey
  rwa [← Store.eq_of_id_eq hc.mem hmem hid.symm]

/-! ## 2. What a second attempt makes of each record -/

/-- **A record from before meets its fate**: at the second attempt, or it has met it already. -/
theorem exists_get?_fulfilled_again (hf' : (x.again later f).DrawsFresh s')
    (clock : Call → Instant) {r : Alert} (hr : r ∈ s.records) : ∃ clock',
      ((x.again later f).fulfilled s' clock).get? r.id = some (x.afterwards s clock' r) := by
  obtain ⟨r', hr', he⟩ := h.old r hr
  have hmem' := Store.mem_of_get? hr'
  have hget := get?_fulfilled_of_mem (x := x.again later f) clock hx hf' hmem'
  rw [Store.id_of_get? hr'] at hget
  rw [hget]
  rcases he with rfl | ⟨clock', rfl⟩
  · refine ⟨clock, congrArg some ?_⟩
    rcases afterwards_cases (x := x) clock hr with ⟨hq, e⟩ | ⟨hstale, e⟩ | ⟨d, hstands, hd, e⟩
    · rw [e]
      exact afterwards_of_not_isMatch hq
    · have hstale' := h.mem_stale hx hsc later f hstale hmem'
      rw [afterwards_of_mem_stale hstale', e]
    · have hstands' := h.stands hx hsc hstands (Plan.detects_of_detection? hd) hr' (.inl rfl)
      rw [e]
      exact afterwards_of_stands hstands' hd
  · refine ⟨clock', congrArg some ?_⟩
    rcases afterwards_cases (x := x) clock' hr with ⟨hq, e⟩ | ⟨hstale, e⟩ | ⟨d, hstands, hd, e⟩
    · rw [e]
      exact afterwards_of_not_isMatch hq
    · rw [e]
      exact afterwards_of_not_isMatch (not_isMatch_resolve _ _ _)
    · have hbecame : x.Became s r (x.afterwards s clock' r) := .inr ⟨clock', rfl⟩
      have hstands' := h.stands hx hsc hstands (Plan.detects_of_detection? hd) hr' hbecame
      have hafter : (x.again later f).afterwards s' clock (x.afterwards s clock' r) =
          (x.afterwards s clock' r).settled d :=
        afterwards_of_stands hstands' (hbecame.key_eq ▸ hd)
      rw [hafter, e, Alert.settled_settled]

/-- What is new to the second attempt was new to the first. -/
theorem mem_new_of_mem_new_again {b : Alert} (hb : b ∈ ((x.again later f).plan s').new) :
    b ∈ (x.plan s).new := by
  obtain ⟨hd, hnone⟩ := (mem_new_plan_iff_of_scoped (x := x.again later f) hsc).mp hb
  refine (mem_new_plan_iff_of_scoped hsc).mpr ⟨hd, fun c hc hq hkey => ?_⟩
  -- otherwise a record stands for the finding, and goes on doing so
  have hk : Plan.Detects x.batch c.key := hkey ▸ Plan.detects_of_detection? hd
  obtain ⟨_, r', _, _, _, hr', hkey'⟩ := h.exists_stands hx hsc hc hq hk
  exact hnone r' hr'.mem hr'.isMatch (hkey'.trans hkey)

/-- What the first attempt created stays as it is. -/
theorem afterwards_again_of_mem_created {a : Alert} (ha : a ∈ s'.records)
    (hcreated : a ∈ x.created s) : (x.again later f).afterwards s' clock a = a := by
  obtain ⟨hq, hnone⟩ := isMatch_of_mem_created_of_scoped hx hsc hcreated
  have hstands : s'.Stands (.inScope x.filters) a := by
    refine ⟨ha, hq, fun c' hc' hqc' hkey => ?_⟩
    rcases h.exists_of_mem hc' with ⟨c, hc, hbecame⟩ | hc'created
    · have hqc := hbecame.isMatch_of_isMatch hqc'
      exact absurd (hbecame.key_eq.symm.trans hkey) (hnone c hc hqc)
    · rw [eq_of_key_eq_of_mem_created hc'created hcreated
        (Query.not_attempted_of_isMatch_inScope hqc') (Query.not_attempted_of_isMatch_inScope hq)
        hkey]
      exact Alert.listedBefore_refl a
  obtain ⟨b, hb, n, e⟩ := exists_of_mem_created hx hcreated
  have hd := ((mem_new_plan_iff_of_scoped hsc).mp hb).1
  have hkey : a.key = b.key := by rw [e]; rfl
  rw [afterwards_of_stands (x := x.again later f) hstands (hkey ▸ hd), e, Alert.settled_self]

/-- What is new after the second attempt is what the pass calls new, and in scope. -/
theorem mem_new_of_mem_fulfilled_again (hf' : (x.again later f).DrawsFresh s') {a : Alert}
    (ha : a ∈ ((x.again later f).fulfilled s' clock).records) (hid : s.get? a.id = none) :
    { a with id := "" } ∈ (x.plan s).new ∧ (Query.inScope x.filters).isMatch a = true := by
  rcases (mem_fulfilled_iff (x := x.again later f) hx hf').mp ha with ⟨c, hc, e⟩ | hcreated
  · have hcid : c.id = a.id := by rw [← e, id_afterwards]
    have hcreated := h.new c hc (hcid ▸ hid)
    obtain ⟨b, hb, n, e'⟩ := exists_of_mem_created hx hcreated
    rw [h.afterwards_again_of_mem_created hx hsc hc hcreated] at e
    exact isMatch_of_mem_new hx hsc hb (e ▸ e')
  · obtain ⟨b, hb, n, e⟩ := exists_of_mem_created (x := x.again later f) hx hcreated
    exact isMatch_of_mem_new hx hsc (h.mem_new_of_mem_new_again hx hsc hb) e

/-- All that the pass calls new is there after the second attempt. -/
theorem exists_mem_fulfilled_again (hf' : (x.again later f).DrawsFresh s') {d : Alert}
    (hd : d ∈ (x.plan s).new) : ∃ a ∈ ((x.again later f).fulfilled s' clock).records,
      s.get? a.id = none ∧ { a with id := "" } = d := by
  obtain ⟨hdetect, hnone⟩ := (mem_new_plan_iff_of_scoped hsc).mp hd
  obtain ⟨a, ha, hq, hkey⟩ := exists_mem_fulfilled (x := x.again later f) (s := s')
    clock hx hsc.covered hf' (Plan.detects_of_detection? hdetect)
  have hid : s.get? a.id = none := by
    cases hget : s.get? a.id with
    | none => rfl
    | some r =>
      -- a record from before that is in scope now would have been in scope with this key
      have hr := Store.mem_of_get? hget
      obtain ⟨clock', hfate⟩ := h.exists_get?_fulfilled_again hx hsc hf' clock hr
      rw [Store.id_of_get? hget, Store.get?_of_mem ha] at hfate
      have e : a = x.afterwards s clock' r := Option.some.inj hfate
      refine absurd ?_ (hnone r hr (Became.isMatch_of_isMatch (.inr ⟨clock', e⟩) hq))
      rw [← hkey, e, key_afterwards]
  refine ⟨a, ha, hid, ?_⟩
  -- it is the detection of its finding, under a drawn id
  have hnew := (h.mem_new_of_mem_fulfilled_again hx hsc hf' ha hid).1
  have hdetect' := ((mem_new_plan_iff_of_scoped hsc).mp hnew).1
  have hkey' : ({ a with id := "" } : Alert).key = d.key := hkey
  rw [hkey', hdetect] at hdetect'
  exact (Option.some.inj hdetect').symm

end Records

end Underway

/-! ## 3. The same store but for ids and stamps -/

/-- A record of a later store without what depends on drawn ids and on clocks: the id, where the
store had no record under it, and the time of resolution, where the record was not resolved. -/
def blur (s : Store) (a : Alert) : Alert :=
  match s.get? a.id with
  | none => { a with id := "" }
  | some r => if a.status = r.status then a else { a with resolvedAt := none }

theorem blur_of_none {a : Alert} (h : s.get? a.id = none) : blur s a = { a with id := "" } := by
  rw [blur, h]

theorem id_blur_of_some {a r : Alert} (h : s.get? a.id = some r) : (blur s a).id = a.id := by
  rw [blur, h]
  simp only
  split <;> rfl

/-- A record from before does not blur into one that is new. -/
theorem blur_ne_of_some_of_none {a b r : Alert} (ha : a ∈ s'.records) (hsome : s.get? a.id = some r)
    (hnone : s.get? b.id = none) : blur s a ≠ blur s b := by
  intro e
  have hid := congrArg Alert.id e
  rw [id_blur_of_some hsome, blur_of_none hnone] at hid
  exact s'.named a ha hid

theorem key_blur (s : Store) (a : Alert) : (blur s a).key = a.key := by
  unfold blur
  split
  · rfl
  · split <;> rfl

/-- When an active record is resolved does not show. -/
theorem blur_resolve {r : Alert} (hr : r ∈ s.records) (hactive : r.status = .active)
    (t t' : Instant) : blur s (r.resolve t) = blur s (r.resolve t') := by
  have hblur : ∀ t, blur s (r.resolve t) = { r.resolve t with resolvedAt := none } := by
    intro t
    have hget : s.get? (r.resolve t).id = some r := Store.get?_of_mem hr
    have hne : (r.resolve t).status ≠ r.status := by
      rw [hactive]
      intro e
      cases e
    rw [blur, hget]
    simp only
    rw [if_neg hne]
  rw [hblur, hblur]
  rfl

/-- By which clock a record is retired does not show. -/
theorem blur_afterwards {r : Alert} (hr : r ∈ s.records) (clock clock' : Call → Instant) :
    blur s (x.afterwards s clock r) = blur s (x.afterwards s clock' r) := by
  rcases afterwards_cases (x := x) clock hr with ⟨hq, e⟩ | ⟨hstale, e⟩ | ⟨d, hstands, hd, e⟩
  · rw [e, afterwards_of_not_isMatch hq]
  · rw [e, afterwards_of_mem_stale hstale]
    exact blur_resolve hr (Query.status_of_isMatch_inScope (mem_stale_plan_iff.mp hstale).2.1) _ _
  · rw [e, afterwards_of_stands hstands hd]

namespace Underway

section Blurred

variable (h : x.Underway s s') (hx : x.Unnamed) (hsc : x.Scoped)
  (hf' : (x.again later f).DrawsFresh s')
include h hx hsc hf'

/-- **Where the second attempt arrives does not depend on how far the first one came.** -/
theorem mem_map_blur_iff (clock' : Call → Instant) {b : Alert} :
    b ∈ ((x.again later f).fulfilled s' clock).records.map (blur s) ↔
      (∃ r ∈ s.records, blur s (x.afterwards s clock' r) = b) ∨ b ∈ (x.plan s).new := by
  rw [List.mem_map]
  constructor
  · intro ⟨a, ha, e⟩
    cases hid : s.get? a.id with
    | none =>
      rw [blur_of_none hid] at e
      exact .inr (e ▸ (h.mem_new_of_mem_fulfilled_again hx hsc hf' ha hid).1)
    | some r =>
      have hr := Store.mem_of_get? hid
      obtain ⟨clock'', hget⟩ := h.exists_get?_fulfilled_again hx hsc hf' clock hr
      rw [Store.id_of_get? hid, Store.get?_of_mem ha] at hget
      rw [Option.some.inj hget] at e
      exact .inl ⟨r, hr, (blur_afterwards hr clock' clock'').trans e⟩
  · intro hb
    rcases hb with ⟨r, hr, e⟩ | hb
    · obtain ⟨clock'', hget⟩ := h.exists_get?_fulfilled_again hx hsc hf' clock hr
      exact ⟨_, Store.mem_of_get? hget, (blur_afterwards hr clock'' clock').trans e⟩
    · obtain ⟨a, ha, hid, e⟩ := h.exists_mem_fulfilled_again hx hsc hf' hb
      exact ⟨a, ha, (blur_of_none hid).trans e⟩

/-- No two records blur into one. -/
theorem nodup_map_blur :
    (((x.again later f).fulfilled s' clock).records.map (blur s)).Nodup := by
  refine List.Nodup.map_on ?_ (Store.nodup_records _)
  intro a ha b hb e
  cases hida : s.get? a.id with
  | none =>
    cases hidb : s.get? b.id with
    | none =>
      have hkey : a.key = b.key := by rw [← key_blur s a, e, key_blur]
      have hqa := (h.mem_new_of_mem_fulfilled_again hx hsc hf' ha hida).2
      have hqb := (h.mem_new_of_mem_fulfilled_again hx hsc hf' hb hidb).2
      exact eq_of_key_eq_of_mem_fulfilled (x := x.again later f) hx hsc.covered hf' ha hqa hb hqb
        hkey
    | some r => exact absurd e.symm (blur_ne_of_some_of_none hb hidb hida)
  | some r =>
    cases hidb : s.get? b.id with
    | none => exact absurd e (blur_ne_of_some_of_none ha hida hidb)
    | some r' =>
      have hid := congrArg Alert.id e
      rw [id_blur_of_some hida, id_blur_of_some hidb] at hid
      exact Store.eq_of_id_eq ha hb hid

end Blurred

/-- Two stores on the way lead to the same store, but for ids and stamps. -/
theorem perm_map_blur (h : x.Underway s s') (h' : x.Underway s s'') (hx : x.Unnamed)
    (hsc : x.Scoped) (hf' : (x.again later f).DrawsFresh s')
    (hf'' : (x.again later' g).DrawsFresh s'') :
    (((x.again later f).fulfilled s' clock).records.map (blur s)).Perm
      (((x.again later' g).fulfilled s'' clock').records.map (blur s)) := by
  refine (List.perm_ext_iff_of_nodup (h.nodup_map_blur hx hsc hf')
    (h'.nodup_map_blur hx hsc hf'')).mpr fun b => ?_
  rw [h.mem_map_blur_iff hx hsc hf' clock, h'.mem_map_blur_iff hx hsc hf'' clock]

end Underway

/-! ## 4. A pass that succeeded, once more -/

section Replay

variable (hx : x.Unnamed) (hsc : x.Scoped) (hf : x.DrawsFresh s)
include hx hf

theorem underway_fulfilled (clock : Call → Instant) : x.Underway s (x.fulfilled s clock) where
  denied := denied_fulfilled x s clock
  old _ hr := ⟨_, get?_fulfilled_of_mem clock hx hf hr, .inr ⟨clock, rfl⟩⟩
  new _ ha h := ((get?_fulfilled_of_none hx hf h).mp (Store.get?_of_mem ha)).1

include hsc

/-- Every record has met its fate. -/
theorem afterwards_fulfilled {a : Alert} (ha : a ∈ (x.fulfilled s clock).records) :
    (x.again later f).afterwards (x.fulfilled s clock) clock' a = a := by
  have hway : x.Underway s (x.fulfilled s clock) := underway_fulfilled hx hf clock
  by_cases hq : (Query.inScope x.filters).isMatch a = true
  · rcases (mem_fulfilled_isMatch_iff clock hx hsc.covered hf).mp ⟨ha, hq⟩ with
      ⟨r, hr, hk, rfl⟩ | ⟨hcreated, _⟩
    · obtain ⟨d, hd⟩ := Plan.detection?_of_detects hk
      have hget := get?_fulfilled_of_mem clock hx hf hr.mem
      have hstands := hway.stands hx hsc hr hk hget (.inr ⟨clock, rfl⟩)
      have hkey := key_afterwards x s clock r
      rw [afterwards_of_stands (x := x.again later f) hstands (hkey ▸ hd),
        afterwards_of_stands hr hd, Alert.settled_settled]
    · exact hway.afterwards_again_of_mem_created hx hsc ha hcreated
  · exact afterwards_of_not_isMatch (x := x.again later f) (by simpa [again] using hq)

theorem new_fulfilled_eq_nil : ((x.again later f).plan (x.fulfilled s clock)).new = [] := by
  refine List.eq_nil_iff_forall_not_mem.mpr fun b hb => ?_
  obtain ⟨hd, hnone⟩ := (mem_new_plan_iff_of_scoped (x := x.again later f) hsc).mp hb
  obtain ⟨a, ha, hq, hkey⟩ := exists_mem_fulfilled clock hx hsc.covered hf
    (Plan.detects_of_detection? hd)
  exact hnone a ha hq hkey

theorem stale_fulfilled_eq_nil : ((x.again later f).plan (x.fulfilled s clock)).stale = [] := by
  refine List.eq_nil_iff_forall_not_mem.mpr fun a ha => ?_
  obtain ⟨hmem, hq, hnot⟩ := mem_stale_plan_iff.mp ha
  have hstays : (x.again later f).afterwards (x.fulfilled s clock) clock a = a :=
    afterwards_fulfilled hx hsc hf hmem
  rw [← hstays] at hq
  exact hnot ((isMatch_afterwards_iff (x := x.again later f) hsc.covered hmem).mp hq)

/-- **A pass that succeeded changes nothing when it is made once more.** -/
theorem fulfilled_fulfilled (hf' : (x.again later f).DrawsFresh (x.fulfilled s clock)) :
    (x.again later f).fulfilled (x.fulfilled s clock) clock' = x.fulfilled s clock := by
  refine Store.eq_of_get?_eq (denied_fulfilled _ _ _) fun id => ?_
  cases hid : (x.fulfilled s clock).get? id with
  | some a =>
    have ha := Store.mem_of_get? hid
    have hget := get?_fulfilled_of_mem (x := x.again later f) clock' hx hf' ha
    rwa [Store.id_of_get? hid, afterwards_fulfilled hx hsc hf ha] at hget
  | none =>
    cases hget : ((x.again later f).fulfilled (x.fulfilled s clock) clock').get? id with
    | none => rfl
    | some a =>
      have hcreated := ((get?_fulfilled_of_none (x := x.again later f) hx hf' hid).mp hget).1
      rw [created, new_fulfilled_eq_nil hx hsc hf] at hcreated
      cases hcreated

/-- Nor does it announce or retire anything. -/
theorem mem_calls_replay {σ : Type} {w : Collaborators σ} {store : σ → Store} {t : σ}
    (hw : w.KeepByAnyClock store) (ht : store t = x.fulfilled s clock) {c : Call}
    (hc : c ∈ ((x.again later f).run w t).calls) :
    c = .search (.inScope x.filters) ∨ ∃ a, c = .upsert a := by
  have h := mem_calls_run hw (x.again later f) t hc
  rw [ht, created, Plan.Asks, new_fulfilled_eq_nil hx hsc hf, stale_fulfilled_eq_nil hx hsc hf] at h
  rcases h with h | ⟨a, _, h⟩ | ⟨a, ha, _⟩ | ⟨a, ha, _⟩
  · exact .inl h
  · exact .inr ⟨a, h⟩
  · cases ha
  · cases ha

end Replay

/-! ## 5. Convergence -/

/-- **A pass that went wrong in any way is made good by trying again**, and a pass that succeeded
changes nothing when it is tried again: it writes at most what is there, announces nothing and
retires nothing. -/
theorem retry_converges {σ : Type} {w : Collaborators σ} {store : σ → Store}
    (hw : w.KeepByAnyClock store) (x : Pass) (t : σ) (clock clock' clock'' : Call → Instant)
    (notify notify' : Alert → Except NotifyError Unit) (later later' : Instant)
    (f g : Nat → String) (hs : (store t).denied = false) (hx : x.Unnamed) (hsc : x.Scoped)
    (hf : x.DrawsFresh (store t))
    (hretry : (x.again later f).DrawsFresh (store (x.run w t).final))
    (hreplay : (x.again later' g).DrawsFresh (x.run (.prompt clock notify) (store t)).final) :
    let single := x.run (.prompt clock notify) (store t)
    let retry := (x.again later f).run (.prompt clock' notify') (store (x.run w t).final)
    let replay := (x.again later' g).run (.prompt clock'' notify') single.final
    ((∃ report, verdict retry = .ok report) ∧
      (retry.final.records.map (blur (store t))).Perm
        (single.final.records.map (blur (store t)))) ∧
    replay.final = single.final ∧
      ∀ c ∈ replay.calls, (∀ a, c ≠ .dispatch a) ∧ ∀ id, c ≠ .markStale id := by
  have hway := (underway_of_mem_moments hw hx hf).2
  obtain ⟨_, _, hsingle, _⟩ := run_prompt clock notify hs hx hf
  obtain ⟨_, report, hretried, _⟩ := run_prompt (x := x.again later f) clock' notify'
    (hway.denied.trans hs) hx hretry
  rw [hsingle] at hreplay
  have hdenied := (denied_fulfilled x (store t) clock).trans hs
  obtain ⟨_, _, hreplayed, _⟩ := run_prompt (x := x.again later' g) clock'' notify'
    hdenied hx hreplay
  have hkeep := prompt_keepByAnyClock clock'' notify'
  intro single retry replay
  refine ⟨⟨⟨report, ?_⟩, ?_⟩, ?_, fun c hc => ?_⟩
  · show verdict ((x.again later f).run _ _) = _
    rw [hretried]
    rfl
  · have hfinal : single.final = x.fulfilled (store t) clock := congrArg Run.final hsingle
    have hfinal' : retry.final = (x.again later f).fulfilled (store (x.run w t).final) clock' :=
      congrArg Run.final hretried
    rw [hfinal, hfinal']
    exact hway.perm_map_blur (g := x.freshId) (underway_refl x (store t)) hx hsc hretry hf
  · show ((x.again later' g).run _ (x.run _ _).final).final = (x.run _ _).final
    rw [hsingle, hreplayed]
    exact fulfilled_fulfilled hx hsc hf hreplay
  · have hfinal : single.final = x.fulfilled (store t) clock := congrArg Run.final hsingle
    rcases mem_calls_replay hx hsc hf hkeep hfinal hc with rfl | ⟨a, rfl⟩
    · exact ⟨fun _ e => (by cases e), fun _ e => (by cases e)⟩
    · exact ⟨fun _ e => (by cases e), fun _ e => (by cases e)⟩

/-- A record of a finding that is detected again, and one of a finding that is not. -/
def twoRecords : Store where
  records := [.raised "a" "shell" .deploy 1, .raised "b" "root" .deploy 2]
  denied := false
  ascending := by decide
  named := by decide

/-- A pass that has something to write over, something to create and something to retire. -/
def mixed : Pass :=
  ⟨.zero, .hour 4, tally 'x', [.raised "" "shell" .runtime 3, .raised "" "net" .runtime 3], []⟩

/-- The first write fails, and the pass is cancelled when it comes to the retirement. -/
def faultyWrite : Script where
  faults := [⟨.upsert, none, some 1, false, .zero, .storeError (.unavailable "no route")⟩,
    ⟨.markStale, none, none, true, .ofMillis 5, .real⟩]
  idName := id

/-- The collaborators of a rehearsal with these faults, and their state at its beginning. -/
def faulty : Collaborators (Timed Rehearsal) :=
  Rehearsal.collaborators (.hour 4) faultyWrite none none

def faultyStart : Timed Rehearsal := ⟨⟨twoRecords, []⟩, 0, false⟩

theorem retry_converges_mixed :
    let single := mixed.run (.prompt (fun _ => mixed.now) fun _ => .ok ()) faultyStart.state.store
    let retry := (mixed.again (.hour 5) (tally 'y')).run
      (.prompt (fun _ => .hour 5) fun _ => .ok ()) (mixed.run faulty faultyStart).final.state.store
    let replay := (mixed.again (.hour 6) (tally 'y')).run
      (.prompt (fun _ => .hour 6) fun _ => .ok ()) single.final
    ((∃ report, verdict retry = .ok report) ∧
      (retry.final.records.map (blur faultyStart.state.store)).Perm
        (single.final.records.map (blur faultyStart.state.store))) ∧
    replay.final = single.final ∧
      ∀ c ∈ replay.calls, (∀ a, c ≠ .dispatch a) ∧ ∀ id, c ≠ .markStale id := by
  have hkeep : faulty.KeepByAnyClock fun t => t.state.store :=
    (rehearsal_keep rfl (by simp [faultyWrite]) none none).byAnyClock
  have hkeep' := prompt_keepByAnyClock (fun _ => mixed.now) fun _ => .ok ()
  have hx : mixed.Unnamed := by unfold Unnamed; decide
  have hsc : mixed.Scoped := by unfold Scoped; decide
  have hf : mixed.DrawsFresh twoRecords := drawsFresh_of_tally rfl (by decide)
  have hother : ∀ m n, tally 'y' m ≠ mixed.freshId n := tally_ne (by decide)
  have hf' : ∀ later, (mixed.again later (tally 'y')).DrawsFresh twoRecords := fun later =>
    drawsFresh_of_tally rfl (by decide)
  have hway := (underway_of_mem_moments (t := faultyStart) hkeep hx hf).2
  have hway' := (underway_of_mem_moments (t := twoRecords) hkeep' hx hf).2
  exact retry_converges hkeep mixed faultyStart (fun _ => mixed.now) (fun _ => .hour 5)
    (fun _ => .hour 6) (fun _ => .ok ()) (fun _ => .ok ()) (.hour 5) (.hour 6) (tally 'y')
    (tally 'y') rfl hx hsc hf ((hf' _).of_created hx hother hway.new)
    ((hf' _).of_created hx hother hway'.new)

end Pass

end AlertLedger
