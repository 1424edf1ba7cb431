import AlertLedger.Failure
import AlertLedger.Query.Basic

/-!
# The store

Records under their own ids. The records are kept in strictly ascending order of their ids, and no
id is empty; both are part of the type, so a store is determined by what `get?` finds under each
id. A search lists what a query matches by first observation and then by id. Access can be
revoked: then every operation that names records is refused, and the store stays as it is.
-/

namespace AlertLedger

/-- Records under their own ids. -/
structure Store where
  records : List Alert
  /-- Whether access is revoked. -/
  denied : Bool
  ascending : records.Pairwise (·.id < ·.id)
  named : ∀ a ∈ records, a.id ≠ ""

namespace Store

/-! ## 1. Records in order -/

/-- A record put in its place among others; it takes the place of the record with its id. -/
def place (a : Alert) : List Alert → List Alert
  | [] => [a]
  | b :: bs =>
    if a.id < b.id then a :: b :: bs else if b.id < a.id then b :: place a bs else a :: bs

theorem mem_place {a x : Alert} {bs : List Alert} (h : x ∈ place a bs) : x = a ∨ x ∈ bs := by
  induction bs with
  | nil => simpa [place] using h
  | cons b bs ih =>
    unfold place at h
    split at h
    · simpa using h
    · split at h
      · rcases List.mem_cons.1 h with rfl | h
        · simp
        · rcases ih h with rfl | h
          · simp
          · simp [h]
      · rcases List.mem_cons.1 h with rfl | h
        · simp
        · simp [h]

theorem pairwise_place {a : Alert} {bs : List Alert} (h : bs.Pairwise (·.id < ·.id)) :
    (place a bs).Pairwise (·.id < ·.id) := by
  induction bs with
  | nil => simp [place]
  | cons b bs ih =>
    rw [List.pairwise_cons] at h
    unfold place
    split
    · rename_i hab
      refine List.pairwise_cons.2 ⟨fun x hx => ?_, List.pairwise_cons.2 h⟩
      rcases List.mem_cons.1 hx with rfl | hx
      · exact hab
      · exact String.lt_trans hab (h.1 x hx)
    · split
      · rename_i hba
        refine List.pairwise_cons.2 ⟨fun x hx => ?_, ih h.2⟩
        rcases mem_place hx with rfl | hx
        · exact hba
        · exact h.1 x hx
      · rename_i hab hba
        have e : a.id = b.id :=
          Std.Trichotomous.trichotomous (r := fun s t : String => s < t) a.id b.id hab hba
        refine List.pairwise_cons.2 ⟨fun x hx => ?_, h.2⟩
        rw [e]
        exact h.1 x hx

/-- What is found under an id after an alert has been put in its place. -/
theorem find?_place {a : Alert} {bs : List Alert} (h : bs.Pairwise (·.id < ·.id)) (id : String) :
    (place a bs).find? (·.id = id) = if id = a.id then some a else bs.find? (·.id = id) := by
  induction bs with
  | nil => by_cases e : id = a.id <;> simp [place, e, eq_comm]
  | cons b bs ih =>
    rw [List.pairwise_cons] at h
    unfold place
    split
    · by_cases e : id = a.id
      · simp [e]
      · have e' : ¬ a.id = id := fun k => e k.symm
        simp [e, e', List.find?_cons]
    · rename_i hab
      split
      · rename_i hba
        rw [List.find?_cons, ih h.2, List.find?_cons]
        by_cases e : id = a.id
        · have hb : ¬ b.id = id := by
            rintro rfl
            rw [e] at hba
            exact String.lt_irrefl _ hba
          simp [e, e ▸ hb]
        · simp [e]
      · rename_i hba
        have e : a.id = b.id :=
          Std.Trichotomous.trichotomous (r := fun s t : String => s < t) a.id b.id hab hba
        rw [List.find?_cons, List.find?_cons, ← e]
        by_cases k : id = a.id
        · simp [k]
        · have k' : ¬ a.id = id := fun h => k h.symm
          simp [k, k']

/-! ## 2. Making and reading a store -/

/-- The store without records. -/
def empty : Store := ⟨[], false, List.Pairwise.nil, by simp⟩

/-- The store with one record more, or with a new record under an id it has. -/
def put (s : Store) (a : Alert) (h : a.id ≠ "") : Store where
  records := place a s.records
  denied := s.denied
  ascending := pairwise_place s.ascending
  named b hb := by
    rcases mem_place hb with rfl | hb
    · exact h
    · exact s.named b hb

/-- The store with one alert more, if the alert has an id. -/
def add (s : Store) (a : Alert) : Store := if h : a.id ≠ "" then s.put a h else s

/-- The store of the alerts of a list that have an id; the last one with an id counts. -/
def ofList (as : List Alert) : Store := as.foldl add empty

/-- The record under an id. -/
def get? (s : Store) (id : String) : Option Alert := s.records.find? (·.id = id)

/-- **A record is found under its id once it has been put**, and under any other id what was there
before. -/
theorem get?_put (s : Store) {a : Alert} (h : a.id ≠ "") (id : String) :
    (s.put a h).get? id = if id = a.id then some a else s.get? id :=
  find?_place s.ascending id

/-- How many records there are. -/
def size (s : Store) : Nat := s.records.length

/-- Whether there are no records. -/
def isEmpty (s : Store) : Bool := s.records = []

/-- The records that a query matches, by first observation and then by id. -/
def select (s : Store) (q : Query) : List Alert :=
  (s.records.filter q.isMatch).mergeSort Alert.listedBefore

/-- All records, by first observation and then by id. -/
def snapshot (s : Store) : List Alert := s.select .any

/-! ## 3. Operations -/

/-- The refusal while access is revoked. -/
def accessRevoked : StoreError := .accessDenied "alert store access revoked"

/-- The refusal of a record without an id. -/
def idMissing : StoreError := .other "cannot upsert alert without an id"

/-- The store with access revoked or granted. -/
def setDenied (s : Store) (b : Bool) : Store := { s with denied := b }

/-- The records that a query matches. -/
def search (s : Store) (q : Query) : Except StoreError (List Alert) :=
  if s.denied then .error accessRevoked else .ok (s.select q)

/-- The store with a record written under its id. -/
def upsert (s : Store) (a : Alert) : Except StoreError Store :=
  if s.denied then .error accessRevoked
  else if h : a.id ≠ "" then .ok (s.put a h)
  else .error idMissing

/-- A record once it is marked stale: resolved, unless it is so already. -/
def retired (now : Instant) (a : Alert) : Alert :=
  if a.status = .resolved then a else a.resolve now

@[simp] theorem id_retired (now : Instant) (a : Alert) : (retired now a).id = a.id := by
  unfold retired
  split <;> rfl

/-- The store with the record under an id marked stale. -/
def markStale (s : Store) (id : String) (now : Instant) : Except StoreError Store :=
  if s.denied then .error accessRevoked
  else
    match h : s.get? id with
    | none => .error (.notFound id)
    | some a =>
      .ok (s.put (retired now a) (by simpa using s.named a (List.mem_of_find?_eq_some h)))

end Store

end AlertLedger
