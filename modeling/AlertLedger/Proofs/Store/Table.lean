import AlertLedger.Proofs.Store.Requests
import Mathlib.Data.List.Perm.Basic

/-!
# A store kept in a table

The records may as well lie in a hash table, under labels and in no order that can be relied on.
`Table` is such a table: nothing in its type says that a label is used once, or that a record lies
under its own id, and whoever goes through it may find its entries in another order each time.
Requests are served on it check by check (`Table.act`).

`Table.Holds` ties a table to a store. It outlives every reordering (`Holds.reordered`) and every
request, and to each request the table replies what the store replies (`Holds.serve`). From there it
goes by induction through any row of requests (`Serves.spec`): the replies do not depend on the
order of the entries, and the table keeps what a store keeps. Main statement: `upkeep`.
-/

namespace AlertLedger

/-- Records under labels, in the order in which someone comes across them. -/
structure Table where
  entries : List (String × Alert)
  /-- Whether access is revoked. -/
  denied : Bool

namespace Table

open Store (id_of_get? mem_of_get? get?_add snapshot retire_of_some retire_of_resolved
  retired_of_not_resolved)

/-! ## 1. The table -/

/-- The record under a label. -/
def find? (t : Table) (label : String) : Option Alert :=
  (t.entries.find? (·.1 = label)).map (·.2)

/-- The table with a record under a label; it takes the place of the one that is there. -/
def insert (t : Table) (label : String) (a : Alert) : Table :=
  { t with entries := (label, a) :: t.entries.filter (·.1 ≠ label) }

/-- The records that a query matches, by first observation and then by id. -/
def list (t : Table) (q : Query) : List Alert :=
  ((t.entries.map (·.2)).filter q.isMatch).mergeSort Alert.listedBefore

/-- The table of the alerts of a list that have an id. -/
def ofList (as : List Alert) : Table :=
  (as.filter (·.hasId)).foldl (fun t a => t.insert a.id a) ⟨[], false⟩

/-- What is done with a table, unless it is given up. -/
abbrev Action := ExceptT StoreError (StateM Table)

/-- Gives up while access is revoked. -/
def checkAccess : Action Unit := do
  if (← get).denied then throw Store.accessRevoked

/-- Resolves the record that is found under an id, unless it is resolved already. -/
def resolveFound (id : String) (now : Instant) : Option Alert → Action Unit
  | none => throw (.notFound id)
  | some a => if a.status = .resolved then return else modify (·.insert id (a.resolve now))

/-- Does what is asked for. -/
def act : Request → Action Reply
  | .upsert a => do
    checkAccess
    if !a.hasId then throw Store.idMissing
    modify (·.insert a.id a)
    return .done
  | .markStale id now => do
    checkAccess
    resolveFound id now ((← get).find? id)
    return .done
  | .search q => do
    checkAccess
    return .found ((← get).list q)
  | .snapshot => return .found ((← get).list .any)
  | .setDenied b => do
    modify fun t => { t with denied := b }
    return .done

/-- What comes back from a table for a request, and the table after it. -/
def serve (t : Table) (r : Request) : Except StoreError Reply × Table := (act r).run.run t

section Serve

variable (t : Table)

/-- What is done behind the check of access. -/
theorem run_checkAccess (action : Action Reply) :
    (do checkAccess; action : Action Reply).run.run t =
      if t.denied then (.error Store.accessRevoked, t) else action.run.run t := by
  obtain ⟨entries, denied⟩ := t
  cases denied <;> rfl

theorem serve_upsert (a : Alert) :
    t.serve (.upsert a) = if t.denied then (.error Store.accessRevoked, t)
      else if a.id = "" then (.error Store.idMissing, t)
      else (.ok .done, t.insert a.id a) := by
  rw [serve, act, run_checkAccess]
  refine if_congr Iff.rfl rfl ?_
  by_cases ha : a.id = ""
  · rw [if_pos ha, if_pos (by simp [Alert.hasId, ha])]
    rfl
  · rw [if_neg ha, if_neg (by simp [Alert.hasId, ha])]
    rfl

theorem serve_markStale (id : String) (now : Instant) :
    t.serve (.markStale id now) = if t.denied then (.error Store.accessRevoked, t)
      else match t.find? id with
        | none => (.error (.notFound id), t)
        | some a =>
          (.ok .done, if a.status = .resolved then t else t.insert id (a.resolve now)) := by
  rw [serve, act, run_checkAccess]
  refine if_congr Iff.rfl rfl ?_
  change (do resolveFound id now (t.find? id); return .done : Action Reply).run.run t = _
  cases t.find? id with
  | none => rfl
  | some a =>
    by_cases h : a.status = .resolved
    · rw [resolveFound, if_pos h]
      exact congrArg (Prod.mk _) (if_pos h).symm
    · rw [resolveFound, if_neg h]
      exact congrArg (Prod.mk _) (if_neg h).symm

theorem serve_search (q : Query) :
    t.serve (.search q) = if t.denied then (.error Store.accessRevoked, t)
      else (.ok (.found (t.list q)), t) :=
  run_checkAccess t _

/-- **A request that is refused leaves the table exactly as it is.** -/
theorem serve_of_error {r : Request} {e : StoreError} (h : (t.serve r).1 = .error e) :
    (t.serve r).2 = t := by
  cases r with
  | upsert a =>
    rw [serve_upsert] at h ⊢
    split_ifs at h ⊢ <;> rfl
  | markStale id now =>
    rw [serve_markStale] at h ⊢
    split_ifs at h ⊢
    · rfl
    · cases hf : t.find? id with
      | none => rfl
      | some a =>
        rw [hf] at h
        cases h
  | search q =>
    rw [serve_search]
    split_ifs <;> rfl
  | snapshot => rfl
  | setDenied b => cases h

/-- To mark stale a record that is resolved changes nothing in the table. -/
theorem serve_markStale_of_resolved {id : String} {a : Alert} (ha : t.find? id = some a)
    (hres : a.status = .resolved) (now : Instant) : (t.serve (.markStale id now)).2 = t := by
  rw [serve_markStale, ha]
  by_cases hd : t.denied = true
  · rw [if_pos hd]
  · rw [if_neg hd]
    exact if_pos hres

end Serve

/-! ## 2. A table and a store -/

/-- A table that holds the records of a store, each under its id and no label twice. -/
structure Holds (t : Table) (s : Store) : Prop where
  labels : (t.entries.map (·.1)).Nodup
  mem_iff : ∀ label a, (label, a) ∈ t.entries ↔ s.get? label = some a
  denied : t.denied = s.denied

/-- Two tables with the same entries, in whatever order each. -/
structure Reordered (t u : Table) : Prop where
  entries : t.entries.Perm u.entries
  denied : u.denied = t.denied

theorem find?_eq_some_iff {t : Table} (h : (t.entries.map (·.1)).Nodup) {label : String}
    {a : Alert} : t.find? label = some a ↔ (label, a) ∈ t.entries := by
  rw [find?, Option.map_eq_some_iff]
  constructor
  · rintro ⟨⟨l, b⟩, hfind, rfl⟩
    have hl : l = label := by simpa using List.find?_some hfind
    exact hl ▸ List.mem_of_find?_eq_some hfind
  · intro hmem
    cases hfind : t.entries.find? (·.1 = label) with
    | none => simpa using List.find?_eq_none.mp hfind _ hmem
    | some p =>
      have hp : p.1 = label := by simpa using List.find?_some hfind
      have hsame := List.inj_on_of_nodup_map h (List.mem_of_find?_eq_some hfind) hmem hp
      exact ⟨p, rfl, by rw [hsame]⟩

namespace Holds

variable {t u : Table} {s : Store}

theorem find?_eq (h : t.Holds s) : t.find? = s.get? :=
  funext fun label => Option.ext fun a => by rw [find?_eq_some_iff h.labels, h.mem_iff]

/-- A record put under its id is held as the store has it. -/
theorem insert (h : t.Holds s) {a : Alert} (ha : a.id ≠ "") :
    (t.insert a.id a).Holds (s.add a) where
  labels := by
    have hkept : ((t.entries.filter (·.1 ≠ a.id)).map (·.1)).Nodup :=
      h.labels.sublist (List.filter_sublist.map _)
    refine List.nodup_cons.mpr ⟨fun hmem => ?_, hkept⟩
    obtain ⟨p, hp, hid⟩ := List.mem_map.mp hmem
    simpa [hid] using (List.mem_filter.mp hp).2
  mem_iff label b := by
    have hmem : (label, b) ∈ (t.insert a.id a).entries ↔
        (label = a.id ∧ b = a) ∨ ((label, b) ∈ t.entries ∧ label ≠ a.id) := by
      simp [Table.insert]
    rw [hmem, h.mem_iff, get?_add s ha]
    by_cases hl : label = a.id
    · simp [hl, eq_comm]
    · simp [hl]
  denied := h.denied.trans (s.denied_add a).symm

/-- What lies in the table matching a query lists it, whatever the order of the entries. -/
theorem lists (h : t.Holds s) (q : Query) : Lists s.get? q (t.list q) := by
  have hid : ∀ p ∈ t.entries, p.2.id = p.1 := fun p hp =>
    id_of_get? ((h.mem_iff p.1 p.2).mp hp)
  refine Lists.of_mergeSort (fun a => ?_) ?_
  · rw [List.mem_filter, ← h.mem_iff]
    refine and_congr_left fun _ => ⟨fun ha => ?_, fun ha => List.mem_map.mpr ⟨_, ha, rfl⟩⟩
    obtain ⟨p, hp, rfl⟩ := List.mem_map.mp ha
    exact (hid p hp).symm ▸ hp
  · refine List.Nodup.sublist (List.filter_sublist.map _) ?_
    have hids : (t.entries.map (·.2)).map (·.id) = t.entries.map (·.1) := by
      rw [List.map_map]
      exact List.map_congr_left hid
    rw [hids]
    exact h.labels

theorem list_eq (h : t.Holds s) (q : Query) : t.list q = s.select q :=
  (h.lists q).unique (s.lists_select q)

/-- **A request comes to the same in the table as in the store.** -/
theorem serve (h : t.Holds s) (r : Request) :
    (t.serve r).1 = (s.serve r).1 ∧ (t.serve r).2.Holds (s.serve r).2 := by
  rw [s.serve_eq]
  cases r with
  | upsert a =>
    rw [serve_upsert, Request.objection?, h.denied]
    split_ifs with hd ha
    · exact ⟨rfl, h⟩
    · exact ⟨rfl, h⟩
    · exact ⟨rfl, h.insert ha⟩
  | markStale id now =>
    rw [serve_markStale, Request.objection?, h.denied, h.find?_eq]
    by_cases hd : s.denied = true
    · rw [if_pos hd, if_pos hd]
      exact ⟨rfl, h⟩
    rw [if_neg hd, if_neg hd]
    cases hget : s.get? id with
    | none => exact ⟨rfl, h⟩
    | some a =>
      refine ⟨rfl, ?_⟩
      show Holds (if a.status = .resolved then t else t.insert id (a.resolve now)) (s.retire now id)
      split_ifs with hres
      · rwa [retire_of_resolved hget hres]
      · have hid := id_of_get? hget
        rw [retire_of_some hget, retired_of_not_resolved hres, ← hid]
        exact h.insert (a := a.resolve now) (s.named a (mem_of_get? hget))
  | search q =>
    rw [serve_search, Request.objection?, h.denied, h.list_eq]
    split_ifs <;> exact ⟨rfl, h⟩
  | snapshot =>
    refine ⟨?_, h⟩
    show Except.ok (Reply.found (t.list .any)) = .ok (.found s.snapshot)
    rw [h.list_eq, snapshot]
  | setDenied b => exact ⟨rfl, h.labels, h.mem_iff, rfl⟩

/-- **What a table holds does not depend on the order of its entries.** -/
theorem reordered (h : t.Holds s) (hu : t.Reordered u) : u.Holds s where
  labels := (hu.entries.map _).nodup_iff.mp h.labels
  mem_iff label a := by rw [← hu.entries.mem_iff, h.mem_iff]
  denied := hu.denied.trans h.denied

/-- A table keeps what it holds as a store does. -/
theorem keeps (h : t.Holds s) : Keeps Table.serve find? Table.denied t where
  filed label a hf := s.keeps.filed label a (h.find?_eq ▸ hf)
  searched q hd := by
    refine ⟨t.list q, ?_, h.find?_eq ▸ h.lists q⟩
    rw [serve_search, if_neg (by simp [hd])]
  shown := ⟨t.list .any, rfl, h.find?_eq ▸ h.lists .any⟩
  refused_iff r e := by rw [(h.serve r).1, s.keeps.refused_iff, h.denied, h.find?_eq]
  unchanged r e he := t.serve_of_error he
  changed r reply hr id := by
    rw [(h.serve r).2.find?_eq, h.find?_eq]
    exact s.keeps.changed r reply ((h.serve r).1 ▸ hr) id
  denied_eq r := by rw [(h.serve r).2.denied, h.denied, s.denied_serve]
  settled id a now ha hres := t.serve_markStale_of_resolved ha hres now

end Holds

/-- A table made of a list of alerts holds the records of the store made of the list. -/
theorem holds_ofList (as : List Alert) : (ofList as).Holds (Store.ofList as) := by
  suffices h : ∀ (t : Table) (s : Store), t.Holds s →
      ((as.filter (·.hasId)).foldl (fun t a => t.insert a.id a) t).Holds (as.foldl Store.add s) from
    h _ _ ⟨.nil, fun _ _ => ⟨nofun, nofun⟩, rfl⟩
  induction as with
  | nil => exact fun t s h => h
  | cons a as ih =>
    intro t s h
    by_cases ha : a.id = ""
    · rw [List.filter_cons_of_neg (by simp [Alert.hasId, ha]), List.foldl_cons, Store.add,
        dif_neg (not_not.mpr ha)]
      exact ih t s h
    · rw [List.filter_cons_of_pos (by simp [Alert.hasId, ha])]
      exact ih _ _ (h.insert ha)

/-! ## 3. Requests in a row -/

/-- What comes back for requests in a row, and a table after them, where the entries may come in
another order before each request and in the end. -/
inductive Serves : Table → List Request → List (Except StoreError Reply) → Table → Prop
  | nil {t u : Table} (h : t.Reordered u) : Serves t [] [] u
  | cons {t u v : Table} {r : Request} {rs : List Request}
      {replies : List (Except StoreError Reply)} (h : t.Reordered u)
      (rest : Serves (u.serve r).2 rs replies v) : Serves t (r :: rs) ((u.serve r).1 :: replies) v

namespace Serves

variable {t u : Table} {s : Store} {rs : List Request} {replies : List (Except StoreError Reply)}

/-- **In any row of requests a table replies what the store replies**, in whatever order the entries
come, and holds in the end what the store holds. -/
theorem spec (h : Serves t rs replies u) (hs : t.Holds s) :
    replies = (s.serveAll rs).1 ∧ u.Holds (s.serveAll rs).2 := by
  induction h generalizing s with
  | nil h => exact ⟨rfl, hs.reordered h⟩
  | cons h rest ih =>
    obtain ⟨hreply, hafter⟩ := (hs.reordered h).serve _
    obtain ⟨hreplies, hfinal⟩ := ih hafter
    exact ⟨congrArg₂ List.cons hreply hreplies, hfinal⟩

end Serves

/-- Requests can be served in a row, the entries staying in the order in which they lie. -/
theorem exists_serves (t : Table) (rs : List Request) : ∃ replies u, Serves t rs replies u := by
  induction rs generalizing t with
  | nil => exact ⟨[], t, .nil ⟨.refl _, rfl⟩⟩
  | cons r rs ih =>
    obtain ⟨replies, u, h⟩ := ih (t.serve r).2
    exact ⟨_, u, .cons ⟨.refl _, rfl⟩ h⟩

/-- What is known after requests in a row of a store and of a table, both made of the alerts of a
list. -/
structure Upkeep (seed : List Alert) (rs : List Request) : Prop where
  store : Keeps Store.serve Store.get? Store.denied ((Store.ofList seed).serveAll rs).2
  /-- Once resolved, a record stays as it is, whatever is asked but to write it anew. -/
  resolved : ∀ id a, ((Store.ofList seed).serveAll rs).2.get? id = some a → a.status = .resolved →
    ∀ later, (∀ b, .upsert b ∈ later → b.id ≠ id) →
      (((Store.ofList seed).serveAll rs).2.serveAll later).2.get? id = some a
  exists_serves : ∃ replies t, Serves (ofList seed) rs replies t
  /-- In whatever order its entries come, the table replies what the store replies. -/
  replies_eq : ∀ replies t, Serves (ofList seed) rs replies t →
    replies = ((Store.ofList seed).serveAll rs).1
  holds : ∀ replies t, Serves (ofList seed) rs replies t →
    t.Holds ((Store.ofList seed).serveAll rs).2
  table : ∀ replies t, Serves (ofList seed) rs replies t → Keeps Table.serve find? Table.denied t

/-- **Whatever is asked of a store, it does what is expected of it**, and so does a table whose
entries come in no order that can be relied on: its replies are those of the store. -/
theorem upkeep (seed : List Alert) (rs : List Request) : Upkeep seed rs where
  store := Store.keeps _
  resolved _ _ ha hres later hnew := Store.get?_serveAll_of_resolved hres later hnew _ ha
  exists_serves := exists_serves _ rs
  replies_eq _ _ h := (h.spec (holds_ofList seed)).1
  holds _ _ h := (h.spec (holds_ofList seed)).2
  table _ _ h := (h.spec (holds_ofList seed)).2.keeps

end Table

end AlertLedger
