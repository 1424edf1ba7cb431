import AlertLedger.Proofs.Pass.CallOrder

/-!
# Records of new alerts

A new alert that comes without an id is written under one that the pass draws for it, and creates a
record: the store has nothing under this id, and nothing else is written under it first
(`creates_or_keeps_id`). A new alert that comes with an id is written under that one, whatever the
store has there; so a detection that brings the id of a resolved record replaces it
(`not_unused_returning`). Either way an accepted write leaves the alert under its id, and every
other record as it was (`Exchange.Files`).

The pass writes an alert at most once, and the new ones in the order of the plan
(`upserts_calls_isPrefix`); that is why no id drawn is used twice, whatever fails on the way.
-/

namespace AlertLedger

/-! ## 1. What a pass writes, in order -/

/-- The alerts that calls are to write, in order. -/
def upserts (calls : List Call) : List Alert :=
  calls.filterMap fun c =>
    match c with
    | .upsert a => some a
    | _ => none

@[simp] theorem upserts_append (cs ds : List Call) :
    upserts (cs ++ ds) = upserts cs ++ upserts ds := List.filterMap_append

theorem mem_upserts {calls : List Call} {a : Alert} : a ∈ upserts calls ↔ .upsert a ∈ calls := by
  rw [upserts, List.mem_filterMap]
  constructor
  · rintro ⟨c, hc, h⟩
    cases c with
    | upsert b => rwa [← Option.some.inj h]
    | _ => cases h
  · intro h
    exact ⟨.upsert a, h, rfl⟩

theorem upserts_map_upsert (as : List Alert) : upserts (as.map .upsert) = as := by
  induction as with
  | nil => rfl
  | cons a as ih => exact congrArg (a :: ·) ih

theorem upserts_map_markStale (as : List Alert) :
    upserts (as.map fun a => .markStale a.id) = [] := by
  induction as with
  | nil => rfl
  | cons a as ih => exact ih

namespace Pass

variable {σ : Type} {w : Collaborators σ} {store : σ → Store} {x : Pass} {a : Alert}
  {es : List Exchange}

theorem upserts_of_introduces {window : Span} {now : Instant} (h : Introduces window now a es) :
    upserts (es.map (·.call)) = [a] := by
  cases h with
  | announced lookUp permitted announcement writing =>
    rw [List.map_append, upserts_append, lookUp, List.map_cons, List.map_singleton, announcement,
      writing]
    split <;> rfl
  | heldBack lookUp writing =>
    obtain ⟨_, _, _, rfl, _⟩ := lookUp
    rw [List.map_cons, List.map_singleton, writing]
    rfl

theorem upserts_of_forall₂ {window : Span} {now : Instant} {as : List Alert}
    {rows : List (List Exchange)} (h : List.Forall₂ (Introduces window now) as rows) :
    upserts (rows.flatten.map (·.call)) = as := by
  induction h with
  | nil => rfl
  | cons hrow _ ih =>
    rw [List.flatten_cons, List.map_append, upserts_append, ih, upserts_of_introduces hrow]
    rfl

theorem upserts_of_carriesOut {plan : Plan} (h : x.CarriesOut plan es) :
    upserts (es.map (·.call)) = plan.updated ++ identify x.freshId 0 plan.new := by
  obtain ⟨updates, introductions, retirements, rfl, hupdates, hintroductions, hretirements⟩ := h
  rw [List.map_append, List.map_append, upserts_append, upserts_append, hupdates, hretirements,
    upserts_map_upsert, upserts_map_markStale, upserts_of_forall₂ hintroductions, List.append_nil]

/-- Up to where it ends, carrying out a plan writes the first ones of its updates and new alerts. -/
theorem upserts_calls_carryOut_isPrefix (w : Collaborators σ) (x : Pass) (plan : Plan) (t : σ) :
    upserts ((x.carryOut plan >>= fun p => .done p.finish).run w t).calls <+:
      plan.updated ++ identify x.freshId 0 plan.new := by
  let instead : σ → (c : Call) → c.Answer × σ := fun t c => (c.timeoutAnswer .zero, t)
  obtain ⟨_, _, hgoes, _⟩ := goes_trace (fun _ => Store.empty)
    (persisting_uninterrupted w instead) (x.carryOut plan >>= fun p => .done p.finish)
    (t := t) trivial
  obtain ⟨carried, last, p, htrace, hcarried, rfl, _⟩ := Course.exists_of_goes_bind hgoes
  rw [List.append_nil] at htrace
  rw [← upserts_of_carriesOut (carriesOut_of_goes hcarried), ← htrace, map_call_trace]
  exact (calls_run_isPrefix instead _ t).filterMap _

/-- **A pass writes the first ones of its updates and new alerts, in this order**, up to where it
ends. -/
theorem upserts_calls_isPrefix (hw : w.KeepByAnyClock store) (x : Pass) (t : σ) :
    upserts (x.run w t).calls <+: (x.plan (store t)).updated ++ x.created (store t) := by
  obtain ⟨now, hattend⟩ := hw t (.search (.inScope x.filters))
  rcases h : w.attend t (.search (.inScope x.filters)) with ⟨attendance, t'⟩
  rw [h] at hattend
  cases attendance with
  | answered answer =>
    obtain ⟨_, rfl | ⟨e, rfl⟩⟩ := hattend.answered_search
    · rw [run_of_search_ok h]
      exact upserts_calls_carryOut_isPrefix w x (x.plan (store t)) t'
    · rw [run_of_search_error h]
      exact List.nil_prefix
  | cut i =>
    show upserts (Course.run w (.ask _ _) t).calls <+: _
    rw [Course.run, h]
    exact List.nil_prefix
  | refused i =>
    show upserts (Course.run w (.ask _ _) t).calls <+: _
    rw [Course.run, h]
    exact List.nil_prefix

/-! ## 2. Ids drawn -/

/-- An id that no alert brings with it is drawn once at most, and not before its turn. -/
theorem count_id_identify_le_one {f : Nat → String} (hf : Function.Injective f) {n : Nat}
    {as : List Alert} (has : ∀ a ∈ as, a.id ≠ f n) (k : Nat) :
    (n < k → ((identify f k as).map (·.id)).count (f n) = 0) ∧
      ((identify f k as).map (·.id)).count (f n) ≤ 1 := by
  induction as generalizing k with
  | nil => simp [identify]
  | cons a as ih =>
    have hrest := fun k => ih (fun b hb => has b (List.mem_cons_of_mem a hb)) k
    have ha : a.id ≠ f n := has a List.mem_cons_self
    rw [identify]
    split
    · rw [List.map_cons, List.count_cons_of_ne ha]
      exact hrest k
    · rw [List.map_cons]
      obtain ⟨hlater, hle⟩ := hrest (k + 1)
      by_cases hk : k = n
      · subst hk
        rw [List.count_cons_self, hlater (by omega)]
        omega
      · rw [List.count_cons_of_ne fun e => hk (hf e)]
        exact ⟨fun h => hlater (by omega), hle⟩

/-- Among all that a pass is to write, an id that it draws comes once at most. -/
theorem count_id_writes_le_one {s : Store} (hf : x.DrawsFresh s)
    (hother : ∀ n, ∀ b ∈ x.batch, b.id ≠ x.freshId n) (n : Nat) :
    (((x.plan s).updated ++ x.created s).map (·.id)).count (x.freshId n) ≤ 1 := by
  have hupdated : ((x.plan s).updated.map (·.id)).count (x.freshId n) = 0 := by
    refine List.count_eq_zero.mpr fun hmem => ?_
    obtain ⟨u, hu, hid⟩ := List.mem_map.mp hmem
    obtain ⟨r, hr⟩ := get?_of_mem_updated hu
    rw [hid, hf.unused n] at hr
    cases hr
  rw [List.map_append, List.count_append, hupdated, Nat.zero_add]
  refine (count_id_identify_le_one hf.injective (fun b hb => ?_) 0).2
  obtain ⟨c, hc, hid⟩ := Plan.exists_id_of_mem_new hb
  rw [hid]
  exact hother n c hc

/-- A call finds no record under an id that has none, unless it writes one. -/
theorem get?_effect_of_none {now : Instant} {s : Store} {c : Call} {id : String}
    (hid : s.get? id = none) (hc : ∀ b, c = .upsert b → b.id ≠ id) :
    (s.effect now c).get? id = none := by
  cases c with
  | upsert b =>
    show (s.add b).get? id = none
    by_cases hb : b.id = ""
    · rwa [Store.add, dif_neg (not_not.mpr hb)]
    · rw [Store.get?_add s hb, if_neg fun e => hc b rfl e.symm, hid]
  | markStale id' =>
    show (s.retire now id').get? id = none
    rw [Store.get?_retire, hid]
    split <;> rfl
  | _ => exact hid

/-- An id that is not written in a row of exchanges has no record after it, if it had none
before. -/
theorem get?_of_leads {s s' : Store} {id : String} (hleads : Leads s es s')
    (hes : ∀ e ∈ es, ∃ now, e.before.Attends now e.call e.attendance e.after)
    (hid : s.get? id = none) (hc : ∀ e ∈ es, ∀ b, e.call = .upsert b → b.id ≠ id) :
    s'.get? id = none := by
  refine (hleads.invariant (I := fun m => m.get? id = none) hid fun e he hbefore => ?_).2
  obtain ⟨now, hattend⟩ := hes e he
  rcases hattend.store_eq with h | h
  · rw [h, hbefore]
  · rw [h]
    exact get?_effect_of_none hbefore (hc e he)

/-! ## 3. Creating a record -/

end Pass

/-- What it means for an exchange to write an alert: if it is answered as written, the alert is
stored under its id, whatever was there, and no other record is touched either way. -/
structure Exchange.Files (e : Exchange) (a : Alert) : Prop where
  stored : e.written? = some a → e.after.get? a.id = some a
  others : ∀ id, id ≠ a.id → e.after.get? id = e.before.get? id

/-- **A call to write an alert files it**, or leaves the store alone. -/
theorem Exchange.files_of_attends {e : Exchange} {a : Alert} {now : Instant}
    (h : e.before.Attends now e.call e.attendance e.after) (hcall : e.call = .upsert a)
    (ha : a.id ≠ "") : e.Files a where
  stored hwritten := by
    obtain ⟨s, s', rfl⟩ := exists_of_written? hwritten
    exact Store.Attends.get?_of_written h rfl ha
  others id hid := by
    have hstore := h.store_eq
    rw [hcall] at hstore
    rcases hstore with hsame | hadded
    · rw [hsame]
    · rw [hadded]
      show (Store.add _ a).get? id = _
      rw [Store.get?_add _ ha, if_neg hid]

namespace Pass

/-- An alert comes without an id, and the pass draws one for it. -/
def Draws (x : Pass) (s : Store) (a : Alert) : Prop :=
  ∃ b ∈ (x.plan s).new, b.id = "" ∧ ∃ n, a = { b with id := x.freshId n }

/-- An exchange writes a record where there is none: nothing has been written under its id in the
exchanges before, nothing is stored under it, and every record stored stays as it is. -/
structure Creates (before : List Exchange) (e : Exchange) (a : Alert) : Prop where
  unwritten : ∀ d ∈ before, ∀ b, d.call = .upsert b → b.id ≠ a.id
  unused : e.before.get? a.id = none
  kept : ∀ r ∈ e.before.records, e.after.get? r.id = some r

/-- **Writing a new alert that came without an id creates a record**: nothing has been written under
its id in the pass, and nothing is stored under it when it is written, so that no record is
replaced. A new alert that came with an id keeps it. In either case an accepted write leaves the
alert itself under its id, and all else as it was. -/
theorem creates_or_keeps_id (hw : w.KeepByAnyClock store) (x : Pass) (t : σ)
    (hf : x.DrawsFresh (store t)) (hother : ∀ n, ∀ b ∈ x.batch, b.id ≠ x.freshId n)
    {before after : List Exchange} {e : Exchange}
    (htrace : x.course.trace w store t = before ++ e :: after) (hcall : e.call = .upsert a)
    (ha : a ∈ x.created (store t)) :
    e.Files a ∧ ((a ∈ (x.plan (store t)).new ∧ a.id ≠ "") ∨
      (x.Draws (store t) a ∧ Creates before e a)) := by
  have he : e ∈ x.course.trace w store t := by
    rw [htrace]
    exact List.mem_append_right _ List.mem_cons_self
  obtain ⟨now, hattend⟩ := attends_of_mem_trace hw he
  have hfiles : e.Files a := Exchange.files_of_attends hattend hcall (id_of_mem_created hf ha)
  refine ⟨hfiles, ?_⟩
  rcases exists_of_mem_identify ha with hkept | ⟨b, hb, hid, n, rfl⟩
  · exact .inl hkept
  have hcalls : (before ++ e :: after).map (·.call) = (x.run w t).calls := by
    rw [← htrace, map_call_trace]
    rfl
  -- the id is written once at most, and it is written now
  have hbefore : ∀ d ∈ before, ∀ c, d.call = .upsert c → c.id ≠ x.freshId n := by
    intro d hd c hc hid
    have hmem : c ∈ upserts (before.map (·.call)) :=
      List.mem_filterMap.mpr ⟨d.call, List.mem_map_of_mem hd, by rw [hc]⟩
    have hwritten : 0 < ((upserts (before.map (·.call))).map (·.id)).count (x.freshId n) :=
      List.count_pos_iff.mpr (hid ▸ List.mem_map_of_mem hmem)
    have hsplit : upserts (x.run w t).calls = upserts (before.map (·.call)) ++
        { b with id := x.freshId n } :: upserts (after.map (·.call)) := by
      rw [← hcalls, List.map_append, List.map_cons, upserts_append, hcall]
      rfl
    have hprefix := ((upserts_calls_isPrefix hw x t).map (·.id)).sublist.count_le (x.freshId n)
    have hle := count_id_writes_le_one hf hother n
    rw [hsplit, List.map_append, List.map_cons, List.count_append, List.count_cons_self] at hprefix
    omega
  have hleads := leads_trace hw x.course t
  rw [htrace] at hleads
  obtain ⟨m, hm, hrest⟩ := hleads.exists_of_append
  obtain rfl : e.before = m := by
    cases hrest with
    | cons _ _ => rfl
  have hnone : e.before.get? (x.freshId n) = none := by
    refine get?_of_leads hm (fun d hd => ?_) (hf.unused n) hbefore
    exact attends_of_mem_trace hw (htrace ▸ List.mem_append_left _ hd)
  refine .inr ⟨⟨b, hb, hid, n, rfl⟩, hbefore, hnone, fun r hr => ?_⟩
  have hget : e.before.get? r.id = some r := Store.get?_of_mem hr
  rw [hfiles.others r.id, hget]
  intro hid
  rw [hid] at hget
  cases hnone.symm.trans hget

/-- The record of a finding that has been resolved. -/
def oneResolved : Store where
  records := [(Alert.raised "a" "shell" .runtime 1).resolve (.hour 2)]
  denied := false
  ascending := by decide
  named := by decide

/-- A pass that detects the finding again, and another one under an id of its own. -/
def recurring : Pass :=
  ⟨.zero, .hour 4, tally 'x', [.raised "" "shell" .runtime 3, .raised "z" "net" .runtime 3], []⟩

/-- The last alert written is the one of the finding that was resolved, under an id of its own, and
the resolved record stays beside it. -/
theorem creates_recurring :
    ∃ before e, recurring.course.trace (.prompt (fun _ => .hour 4) fun _ => .ok ()) id
        oneResolved = before ++ [e] ∧
      e.written? = some (.raised "x" "shell" .runtime 3) ∧
      Creates before e (.raised "x" "shell" .runtime 3) ∧
      e.after.get? "x" = some (.raised "x" "shell" .runtime 3) := by
  have hw := prompt_keepByAnyClock (fun _ => .hour 4) fun _ => .ok ()
  have hlast : (recurring.course.trace (.prompt (fun _ => .hour 4) fun _ => .ok ()) id
      oneResolved).getLast?.bind (·.written?) = some (.raised "x" "shell" .runtime 3) := by
    decide +kernel
  obtain ⟨e, he, hwritten⟩ := Option.bind_eq_some_iff.mp hlast
  obtain ⟨before, htrace⟩ := List.getLast?_eq_some_iff.mp he
  have hcall : e.call = .upsert (.raised "x" "shell" .runtime 3) := by
    obtain ⟨_, _, rfl⟩ := Exchange.exists_of_written? hwritten
    rfl
  have hcreated : (Alert.raised "x" "shell" .runtime 3) ∈ recurring.created oneResolved := by
    have hall : recurring.created oneResolved =
      [.raised "z" "net" .runtime 3, .raised "x" "shell" .runtime 3] := by cbv
    simp [hall]
  have hletter : ∀ b ∈ recurring.batch, 'x' ∉ b.id.toList := by decide
  have hother : ∀ n, ∀ b ∈ recurring.batch, b.id ≠ recurring.freshId n := fun n b hb =>
    ne_tally (hletter b hb) n
  obtain ⟨hfiles, hcase⟩ := creates_or_keeps_id hw recurring oneResolved
    (drawsFresh_of_tally rfl (by decide)) hother htrace hcall hcreated
  refine ⟨before, e, htrace, hwritten, ?_, hfiles.stored hwritten⟩
  rcases hcase with ⟨hnew, _⟩ | ⟨_, hcreates⟩
  · -- no new alert brings the id that was drawn
    obtain ⟨b, hb, hid⟩ := Plan.exists_id_of_mem_new hnew
    exact absurd hid (by revert b; decide)
  · exact hcreates

/-- A pass that detects the finding again, under the id of its record. -/
def returning : Pass := ⟨.zero, .hour 4, tally 'x', [.raised "a" "shell" .runtime 3], []⟩

/-- **A detection that brings the id of a resolved record replaces it.** -/
theorem not_unused_returning :
    (¬ ∀ a ∈ returning.created oneResolved,
      .upsert a ∈ (returning.run (.prompt (fun _ => .hour 4) fun _ => .ok ()) oneResolved).calls →
        oneResolved.get? a.id = none) ∧
    (returning.run (.prompt (fun _ => .hour 4) fun _ => .ok ()) oneResolved).final.records.map
      (fun a => (a.id, a.status)) = [("a", .active)] := by
  have hcreated : returning.created oneResolved = [.raised "a" "shell" .runtime 3] := by cbv
  have hcalls : (returning.run (.prompt (fun _ => .hour 4) fun _ => .ok ()) oneResolved).calls =
      [.search (.inScope []), .dispatch (.raised "a" "shell" .runtime 3),
        .upsert (.raised "a" "shell" .runtime 3)] := by cbv
  refine ⟨fun h => ?_, by cbv⟩
  have hunused := h (.raised "a" "shell" .runtime 3) (by rw [hcreated]; exact List.mem_cons_self)
    (by rw [hcalls]; simp)
  cases hunused

end Pass

end AlertLedger
