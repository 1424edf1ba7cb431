import AlertLedger.Call.Prompt
import AlertLedger.Proofs.Store.Listing

/-!
# A store that serves requests

Whoever holds a store asks it for one thing after the other: records are written, marked stale and
looked for, and access is revoked and granted again. What this must come to is said without the
store, by what is found under each id:

* `Request.objection?`: which requests are refused, and why;
* `Request.leaves`: what a request that is granted makes of what is found under an id;
* `Lists`: what is found, and in which order. There is but one such list (`Lists.unique`).

`Keeps` puts them together, for anything that serves requests. A store does so (`Store.keeps`), and
once resolved a record stays as it is until it is written anew (`Store.get?_serveAll_of_resolved`).
-/

namespace AlertLedger

/-- What a store can be asked for. -/
inductive Request where
  | upsert (a : Alert)
  /-- The record under an id is to be marked stale, at a moment. -/
  | markStale (id : String) (now : Instant)
  | search (q : Query)
  /-- All records, whether access is revoked or not. -/
  | snapshot
  | setDenied (b : Bool)

/-- What comes back when a request is granted. -/
inductive Reply where
  | done
  | found (as : List Alert)

/-! ## 1. What is to come of a request -/

namespace Request

/-- Why a request is refused, if it is, by whether access is revoked and what is found. -/
def objection? (r : Request) (denied : Bool) (get? : String → Option Alert) : Option StoreError :=
  match r with
  | .upsert a =>
    if denied then some Store.accessRevoked else if a.id = "" then some Store.idMissing else none
  | .markStale id _ =>
    if denied then some Store.accessRevoked
    else if get? id = none then some (.notFound id)
    else none
  | .search _ => if denied then some Store.accessRevoked else none
  | .snapshot | .setDenied _ => none

/-- What a request that is granted makes of what is found under an id. -/
def leaves (r : Request) (id : String) (found : Option Alert) : Option Alert :=
  match r with
  | .upsert a => if id = a.id then some a else found
  | .markStale stale now => if id = stale then found.map (Store.retired now) else found
  | .search _ | .snapshot | .setDenied _ => found

/-- Whether access is revoked after a request, by whether it was before. -/
def denies (r : Request) (denied : Bool) : Bool :=
  match r with
  | .setDenied b => b
  | .upsert _ | .markStale .. | .search _ | .snapshot => denied

end Request

/-- One record is listed strictly before another: by first observation, and then by id. -/
def Alert.Precedes (a b : Alert) : Prop := a.time < b.time ∨ (a.time = b.time ∧ a.id < b.id)

namespace Alert

variable {a b : Alert}

theorem Precedes.listedBefore (h : a.Precedes b) : a.listedBefore b = true :=
  listedBefore_iff.mpr (h.imp_right (And.imp_right Std.le_of_lt))

theorem precedes_of_listedBefore (h : a.listedBefore b = true) (hne : a.id ≠ b.id) :
    a.Precedes b :=
  (listedBefore_iff.mp h).imp_right fun ⟨e, hid⟩ => ⟨e, Std.lt_of_le_of_ne hid hne⟩

theorem not_precedes_self (a : Alert) : ¬ a.Precedes a := by
  rintro (h | ⟨-, h⟩)
  · exact Int.lt_irrefl _ (Instant.lt_iff.mp h)
  · exact String.lt_irrefl _ h

end Alert

/-- All records found that a query matches, each once and one strictly before the next. -/
structure Lists (get? : String → Option Alert) (q : Query) (as : List Alert) : Prop where
  mem_iff : ∀ a, a ∈ as ↔ get? a.id = some a ∧ q.isMatch a = true
  inOrder : as.Pairwise Alert.Precedes

namespace Lists

variable {get? : String → Option Alert} {q : Query} {as bs : List Alert}

theorem nodup (h : Lists get? q as) : as.Nodup := by
  refine List.nodup_iff_pairwise_ne.mpr (h.inOrder.imp fun {a b} hab e => ?_)
  rw [e] at hab
  exact b.not_precedes_self hab

/-- **There is but one way to list** what a query matches. -/
theorem unique (ha : Lists get? q as) (hb : Lists get? q bs) : as = bs := by
  have hperm := (List.perm_ext_iff_of_nodup ha.nodup hb.nodup).mpr fun a => by
    rw [ha.mem_iff, hb.mem_iff]
  refine hperm.eq_of_pairwise (fun a b ha' hb' hab hba => ?_) ha.inOrder hb.inOrder
  have hid := Alert.listedBefore_antisymm hab.listedBefore hba.listedBefore
  have hget := ((ha.mem_iff a).mp ha').1
  rw [hid, ((hb.mem_iff b).mp hb').1] at hget
  exact (Option.some.inj hget).symm

/-- Records put in order list what a query matches, if they are what it matches, each id once. -/
theorem of_mergeSort (hmem : ∀ a, a ∈ as ↔ get? a.id = some a ∧ q.isMatch a = true)
    (hids : (as.map (·.id)).Nodup) : Lists get? q (as.mergeSort Alert.listedBefore) where
  mem_iff a := by rw [List.mem_mergeSort, hmem]
  inOrder := by
    have hne : ((as.mergeSort Alert.listedBefore).map (·.id)).Nodup :=
      ((List.mergeSort_perm as _).map _).nodup_iff.mpr hids
    have hsorted := List.pairwise_mergeSort Alert.listedBefore_trans Alert.listedBefore_total as
    rw [List.nodup_iff_pairwise_ne, List.pairwise_map] at hne
    exact hsorted.imp₂ (fun _ _ => Alert.precedes_of_listedBefore) hne

end Lists

/-- What is expected of anything that serves requests, in a state that it has come to. -/
structure Keeps {σ : Type} (serve : σ → Request → Except StoreError Reply × σ)
    (get? : σ → String → Option Alert) (denied : σ → Bool) (x : σ) : Prop where
  /-- Every record is found under its own id, which is not empty. -/
  filed : ∀ id a, get? x id = some a → a.id = id ∧ id ≠ ""
  /-- A search finds all that its query matches, in order and each once. -/
  searched : ∀ q, denied x = false →
    ∃ as, serve x (.search q) = (.ok (.found as), x) ∧ Lists (get? x) q as
  /-- So does a snapshot, of all records. -/
  shown : ∃ as, serve x .snapshot = (.ok (.found as), x) ∧ Lists (get? x) .any as
  refused_iff : ∀ r e, (serve x r).1 = .error e ↔ r.objection? (denied x) (get? x) = some e
  /-- A request that is refused leaves everything exactly as it is. -/
  unchanged : ∀ r e, (serve x r).1 = .error e → (serve x r).2 = x
  /-- A request that is granted does what it says under each id. -/
  changed : ∀ r reply, (serve x r).1 = .ok reply →
    ∀ id, get? (serve x r).2 id = r.leaves id (get? x id)
  denied_eq : ∀ r, denied (serve x r).2 = r.denies (denied x)
  /-- To mark stale a record that is resolved changes nothing at all. -/
  settled : ∀ id a now, get? x id = some a → a.status = .resolved →
    (serve x (.markStale id now)).2 = x

namespace Store

/-! ## 2. What a store does -/

/-- What a store replies to a write, and the store after it. -/
def settle (s : Store) (written : Except StoreError Store) : Except StoreError Reply × Store :=
  ((s.afterWrite written).1.map fun _ => .done, (s.afterWrite written).2)

/-- What a store replies to a request, and the store after it. -/
def serve (s : Store) : Request → Except StoreError Reply × Store
  | .upsert a => s.settle (s.upsert a)
  | .markStale id now => s.settle (s.markStale id now)
  | .search q => ((s.search q).map .found, s)
  | .snapshot => (.ok (.found s.snapshot), s)
  | .setDenied b => (.ok .done, s.setDenied b)

/-- What a store replies to requests, one after the other, and the store after them. -/
def serveAll (s : Store) : List Request → List (Except StoreError Reply) × Store
  | [] => ([], s)
  | r :: rs => ((s.serve r).1 :: ((s.serve r).2.serveAll rs).1, ((s.serve r).2.serveAll rs).2)

/-- What a store replies to a request that it grants, and the store after it. -/
def granted (s : Store) : Request → Reply × Store
  | .upsert a => (.done, s.add a)
  | .markStale id now => (.done, s.retire now id)
  | .search q => (.found (s.select q), s)
  | .snapshot => (.found s.snapshot, s)
  | .setDenied b => (.done, s.setDenied b)

/-- **A request is either refused, and leaves the store as it is, or it is granted.** -/
theorem serve_eq (s : Store) (r : Request) :
    s.serve r = match r.objection? s.denied s.get? with
      | some e => (.error e, s)
      | none => (.ok (s.granted r).1, (s.granted r).2) := by
  cases r with
  | upsert a =>
    rw [serve, upsert_eq, Request.objection?]
    split_ifs <;> rfl
  | markStale id now =>
    rw [serve, markStale_eq, Request.objection?]
    split_ifs <;> rfl
  | search q =>
    rw [serve, search, Request.objection?]
    split_ifs <;> rfl
  | snapshot => rfl
  | setDenied b => rfl

section Serve

variable {s : Store} {r : Request}

theorem serve_of_objection {e : StoreError} (h : r.objection? s.denied s.get? = some e) :
    s.serve r = (.error e, s) := by
  rw [serve_eq, h]

theorem serve_of_no_objection (h : r.objection? s.denied s.get? = none) :
    s.serve r = (.ok (s.granted r).1, (s.granted r).2) := by
  rw [serve_eq, h]

theorem serve_eq_error_iff {e : StoreError} :
    (s.serve r).1 = .error e ↔ r.objection? s.denied s.get? = some e := by
  cases h : r.objection? s.denied s.get? with
  | none => simp [serve_of_no_objection h]
  | some f => simp [serve_of_objection h]

theorem get?_serve (h : r.objection? s.denied s.get? = none) (id : String) :
    (s.serve r).2.get? id = r.leaves id (s.get? id) := by
  rw [serve_of_no_objection h]
  cases r with
  | upsert a =>
    have ha : a.id ≠ "" := by
      intro hid
      cases hs : s.denied <;> simp [Request.objection?, hs, hid] at h
    exact get?_add s ha id
  | markStale stale now => exact get?_retire now s stale id
  | search q => rfl
  | snapshot => rfl
  | setDenied b => rfl

theorem denied_serve (s : Store) (r : Request) : (s.serve r).2.denied = r.denies s.denied := by
  cases h : r.objection? s.denied s.get? with
  | some e =>
    rw [serve_of_objection h]
    cases r with
    | setDenied b => cases h
    | _ => rfl
  | none =>
    rw [serve_of_no_objection h]
    cases r with
    | upsert a => exact denied_add s a
    | markStale id now => exact denied_retire now s id
    | _ => rfl

/-! ## 3. Records once resolved -/

theorem serve_markStale_of_resolved {id : String} {a : Alert} (ha : s.get? id = some a)
    (hres : a.status = .resolved) (now : Instant) : (s.serve (.markStale id now)).2 = s := by
  cases h : (Request.markStale id now).objection? s.denied s.get? with
  | some e => rw [serve_of_objection h]
  | none =>
    rw [serve_of_no_objection h]
    exact retire_of_resolved ha hres now

/-- A resolved record stays as it is under any request but one that writes it anew. -/
theorem get?_serve_of_resolved {id : String} {a : Alert} (ha : s.get? id = some a)
    (hres : a.status = .resolved) (hnew : ∀ b, r = .upsert b → b.id ≠ id) :
    (s.serve r).2.get? id = some a := by
  cases h : r.objection? s.denied s.get? with
  | some e => rw [serve_of_objection h, ha]
  | none =>
    rw [get?_serve h, ha]
    cases r with
    | upsert b => exact if_neg (hnew b rfl).symm
    | markStale stale now => simp [Request.leaves, retired_of_resolved hres]
    | _ => rfl

/-- **Once resolved, a record stays as it is** until it is written anew. -/
theorem get?_serveAll_of_resolved {id : String} {a : Alert} (hres : a.status = .resolved)
    (rs : List Request) (hnew : ∀ b, .upsert b ∈ rs → b.id ≠ id) (s : Store)
    (ha : s.get? id = some a) : (s.serveAll rs).2.get? id = some a := by
  induction rs generalizing s with
  | nil => exact ha
  | cons r rs ih =>
    refine ih (fun b hb => hnew b (List.mem_cons_of_mem r hb)) _ ?_
    exact get?_serve_of_resolved ha hres fun b hb => hnew b (hb ▸ List.mem_cons_self)

end Serve

/-! ## 4. What a store keeps -/

theorem lists_select (s : Store) (q : Query) : Lists s.get? q (s.select q) := by
  refine Lists.of_mergeSort (fun a => ?_) (s.nodup_ids.sublist (List.filter_sublist.map _))
  rw [List.mem_filter, get?_eq_some_iff, and_iff_left rfl]

/-- **A store does what is expected of it**, whatever has been asked before. -/
theorem keeps (s : Store) : Keeps serve get? denied s where
  filed id a h := ⟨id_of_get? h, id_of_get? h ▸ s.named a (mem_of_get? h)⟩
  searched q hs := ⟨s.select q, by rw [serve, search_eq_select hs]; rfl, s.lists_select q⟩
  shown := ⟨s.snapshot, rfl, s.lists_select .any⟩
  refused_iff r e := serve_eq_error_iff
  unchanged r e h := by rw [serve_of_objection (serve_eq_error_iff.mp h)]
  changed r reply h id := by
    cases hobj : r.objection? s.denied s.get? with
    | none => exact get?_serve hobj id
    | some e =>
      rw [serve_of_objection hobj] at h
      cases h
  denied_eq := s.denied_serve
  settled id a now ha hres := serve_markStale_of_resolved ha hres now

end Store

end AlertLedger
